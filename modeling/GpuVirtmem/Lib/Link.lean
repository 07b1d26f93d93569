import GpuVirtmem.Lib.Proc
import GpuVirtmem.Lib.Run

/-!
# Two parties over a connection

Each party of a connection goes through rounds: in a round it runs a program, and a party that is
between two rounds may have a next one. What one of them writes is queued until the other one gets
it. The two run at their own pace, in any interleaving.

A step of one party never takes away a step of the other, since bytes are only added behind those
that are waited for, so every run can be completed to the end that one run leads to (`completes`).
It is enough to know one schedule: `exchange` is the one in which the second party answers while the
first one waits.

Two programs over two queues have many interleavings, and none of the proofs that use this module
looks at one. What is special here is that a byte that has been queued stays queued until its reader
takes it: the steps of the two sides commute, which is the only fact about interleavings, and is
proved once. From it and from one run that ends, `completes` gives the end of all others, with the
logs of what each round has read and written.
-/

namespace GpuVirtmem.Lib

/-- A round that is over: what its program returned, the bytes it wrote, and those it read. -/
structure Round (ρ : Type) where
  result : ρ
  wrote : Bytes
  read : Bytes

/-- A party is between two rounds, or runs the program of one. -/
inductive Mode (σ ρ : Type)
  | idle (s : σ)
  | busy (p : Proc (σ × ρ))

/-- A party, with what it wrote and read in this round, and the rounds that are over. -/
structure Party (σ ρ : Type) where
  mode : Mode σ ρ
  wrote : Bytes
  read : Bytes
  log : List (Round ρ)

/-- One step of a party on the bytes queued for it: the party after it, the bytes left, and the
bytes written. -/
def Party.move {σ ρ : Type} (next : σ → Option (Proc (σ × ρ))) (c : Party σ ρ) (input : Bytes) :
    Option (Party σ ρ × Bytes × Bytes) :=
  match c.mode with
  | .idle s => (next s).map fun p => (⟨.busy p, [], [], c.log⟩, input, [])
  | .busy (.ret (s, a)) => some (⟨.idle s, [], [], c.log ++ [⟨a, c.wrote, c.read⟩]⟩, input, [])
  | .busy (.put bs k) => some (⟨.busy k, c.wrote ++ bs, c.read, c.log⟩, input, bs)
  | .busy (.get n k) =>
    if n ≤ input.length then
      some (⟨.busy (k (input.take n)), c.wrote, c.read ++ input.take n, c.log⟩, input.drop n, [])
    else none
  | .busy (.fail _) => none

/-- The party's program has failed. -/
def Party.failed {σ ρ : Type} (c : Party σ ρ) : Bool :=
  match c.mode with
  | .busy (.fail _) => true
  | _ => false

/-- Two parties, with the bytes on their way to the second and to the first. -/
structure Link (σ ρ τ υ : Type) where
  client : Party σ ρ
  server : Party τ υ
  up : Bytes
  down : Bytes

/-- Whose step it is. -/
inductive Side
  | client | server
  deriving DecidableEq, Repr

section

variable {σ ρ τ υ : Type} {next : σ → Option (Proc (σ × ρ))} {next' : τ → Option (Proc (τ × υ))}

/-- One step of the connection. -/
def Link.move (next : σ → Option (Proc (σ × ρ))) (next' : τ → Option (Proc (τ × υ)))
    (l : Link σ ρ τ υ) : Side → Option (Link σ ρ τ υ)
  | .client => (l.client.move next l.down).map fun (c, down, given) =>
    { client := c, server := l.server, up := l.up ++ given, down := down }
  | .server => (l.server.move next' l.up).map fun (s, up, given) =>
    { client := l.client, server := s, up := up, down := l.down ++ given }

/-- One step of the connection, as a relation. -/
def Link.Step (next : σ → Option (Proc (σ × ρ))) (next' : τ → Option (Proc (τ × υ)))
    (l : Link σ ρ τ υ) (x : Side) (m : Link σ ρ τ υ) : Prop := l.move next next' x = some m

/-- Whose step it is fixes the step. -/
theorem Link.Step.det {l m k : Link σ ρ τ υ} {x : Side} (hm : Step next next' l x m)
    (hk : Step next next' l x k) : m = k := Option.some.inj (hm.symm.trans hk)

/-- Bytes behind those that a party takes do not matter to it. -/
theorem Party.move_append {c c' : Party σ ρ} {input rest given : Bytes}
    (h : c.move next input = some (c', rest, given)) (more : Bytes) :
    c.move next (input ++ more) = some (c', rest ++ more, given) := by
  obtain ⟨mode, wrote, read, log⟩ := c
  rcases mode with s | p
  · obtain ⟨p, hp, heq⟩ := Option.map_eq_some_iff.mp h
    cases heq
    simp only [move, hp, Option.map_some]
  · cases p with
    | ret a =>
      cases h
      rfl
    | put bs k =>
      cases h
      rfl
    | get n k =>
      simp only [move] at h ⊢
      split at h
      · next hn =>
        cases h
        have hn' : n ≤ (input ++ more).length := by
          rw [List.length_append]
          omega
        rw [if_pos hn', List.take_append_of_le_length hn, List.drop_append_of_le_length hn]
      · cases h
    | fail e => cases h

/-- The steps of the two parties commute. -/
theorem Link.Step.commute {l m k : Link σ ρ τ υ} (hm : Step next next' l .client m)
    (hk : Step next next' l .server k) :
    ∃ v, Step next next' m .server v ∧ Step next next' k .client v := by
  obtain ⟨⟨c, down, given⟩, hc, rfl⟩ := Option.map_eq_some_iff.mp hm
  obtain ⟨⟨s, up, given'⟩, hs, rfl⟩ := Option.map_eq_some_iff.mp hk
  refine ⟨⟨c, s, up ++ given, down ++ given'⟩, ?_, ?_⟩
  · simp only [Step, move, Party.move_append hs, Option.map_some]
  · simp only [Step, move, Party.move_append hc, Option.map_some]

/-- A party keeps the rounds that are over. -/
theorem Party.move_log {c c' : Party σ ρ} {input rest given : Bytes}
    (h : c.move next input = some (c', rest, given)) : c.log <+: c'.log := by
  obtain ⟨mode, wrote, read, log⟩ := c
  rcases mode with s | p
  · obtain ⟨p, _, heq⟩ := Option.map_eq_some_iff.mp h
    cases heq
    exact List.prefix_rfl
  · cases p with
    | ret a =>
      cases h
      exact List.prefix_append ..
    | put bs k =>
      cases h
      exact List.prefix_rfl
    | get n k =>
      simp only [move] at h
      split at h
      · cases h
        exact List.prefix_rfl
      · cases h
    | fail e => cases h

/-- A program that has failed makes no step. -/
theorem Party.move_failed {c : Party σ ρ} (h : c.failed = true) (input : Bytes) :
    c.move next input = none := by
  obtain ⟨mode, wrote, read, log⟩ := c
  rcases mode with s | p
  · cases h
  · cases p with
    | fail e => rfl
    | _ => cases h

/-! ## Whole runs -/

/-- The rounds that are over at one point of a run are over at each later one; a program that has
failed stays so. -/
theorem Link.run_log {l m : Link σ ρ τ υ} {xs : List Side}
    (r : Run (Step next next') l xs m) :
    l.client.log <+: m.client.log ∧ l.server.log <+: m.server.log ∧
      (l.client.failed = true → m.client.failed = true) ∧
      (l.server.failed = true → m.server.failed = true) := by
  induction r with
  | start => exact ⟨List.prefix_rfl, List.prefix_rfl, id, id⟩
  | @snoc _ t u x _ h ih =>
    obtain ⟨hc, hs, hcf, hsf⟩ := ih
    cases x with
    | client =>
      obtain ⟨⟨c, down, given⟩, hmove, rfl⟩ := Option.map_eq_some_iff.mp h
      refine ⟨hc.trans (Party.move_log hmove), hs, ?_, hsf⟩
      intro hl
      rw [Party.move_failed (hcf hl)] at hmove
      cases hmove
    | server =>
      obtain ⟨⟨s, up, given⟩, hmove, rfl⟩ := Option.map_eq_some_iff.mp h
      refine ⟨hc, hs.trans (Party.move_log hmove), hcf, ?_⟩
      intro hl
      rw [Party.move_failed (hsf hl)] at hmove
      cases hmove

/-- No party can make a step. -/
def Link.Ended (next : σ → Option (Proc (σ × ρ))) (next' : τ → Option (Proc (τ × υ)))
    (l : Link σ ρ τ υ) : Prop := ∀ x, l.move next next' x = none

/-- Where one run leads to an end, every run can be completed to that end, in as many steps. -/
theorem Link.completes {l m e : Link σ ρ τ υ} {xs ys : List Side}
    (r : Run (Step next next') l xs e) (hend : e.Ended next next')
    (q : Run (Step next next') l ys m) :
    ∃ zs, Run (Step next next') m zs e ∧ ys.length + zs.length = xs.length :=
  r.completes (fun _ _ _ _ => Step.det)
    (fun {s t u x y} ht hu hne => by
      cases x <;> cases y
      · exact absurd rfl hne
      · exact ht.commute hu
      · obtain ⟨v, htv, huv⟩ := hu.commute ht
        exact ⟨v, huv, htv⟩
      · exact absurd rfl hne)
    (fun x t h => nomatch (hend x).symm.trans h) q

/-! ## One schedule -/

/-- Several steps of a party: the bytes it takes and the bytes it writes. -/
inductive Party.Moves (next : σ → Option (Proc (σ × ρ))) :
    Party σ ρ → Bytes → Bytes → Party σ ρ → Prop
  | refl {c : Party σ ρ} : Moves next c [] [] c
  | head {c c' d : Party σ ρ} {i i' o o' : Bytes} (h : c.move next i = some (c', [], o))
      (t : Moves next c' i' o' d) : Moves next c (i ++ i') (o ++ o') d

/-- Moves one after the other: their inputs and their outputs are put together. -/
theorem Party.Moves.trans {c d e : Party σ ρ} {i i' o o' : Bytes} (h : Moves next c i o d)
    (h' : Moves next d i' o' e) : Moves next c (i ++ i') (o ++ o') e := by
  induction h with
  | refl => exact h'
  | head hmove _ ih =>
    rw [List.append_assoc, List.append_assoc]
    exact .head hmove (ih h')

/-- A party that is idle and has a next round begins it. -/
theorem Party.Moves.begin {s : σ} {p : Proc (σ × ρ)} (h : next s = some p)
    (log : List (Round ρ)) : Moves next ⟨.idle s, [], [], log⟩ [] [] ⟨.busy p, [], [], log⟩ := by
  refine @head _ _ _ _ _ _ [] [] [] [] ?_ .refl
  simp only [move, h, Option.map_some]

/-- A program that has returned is entered in the log, with what it wrote and read. -/
theorem Party.Moves.finish (s : σ) (a : ρ) (wrote read : Bytes) (log : List (Round ρ)) :
    Moves next ⟨.busy (.ret (s, a)), wrote, read, log⟩ [] []
      ⟨.idle s, [], [], log ++ [⟨a, wrote, read⟩]⟩ :=
  @head _ _ _ _ _ _ [] [] [] [] rfl .refl

/-- A party runs the first part of its program. -/
theorem Party.Moves.runs {α : Type} {p : Proc α} {k : α → Proc (σ × ρ)} {i o : Bytes} {a : α}
    (h : Proc.Runs p i o a) (wrote read : Bytes) (log : List (Round ρ)) :
    Moves next ⟨.busy (p >>= k), wrote, read, log⟩ i o
      ⟨.busy (k a), wrote ++ o, read ++ i, log⟩ := by
  induction h generalizing wrote read with
  | ret =>
    rw [List.append_nil, List.append_nil]
    exact .refl
  | @put bs i o p a _ ih =>
    rw [← List.append_assoc]
    exact @head _ _ _ _ _ _ [] i bs o rfl (ih (wrote ++ bs) read)
  | @get n bs i o p a hn _ ih =>
    subst hn
    rw [← List.append_assoc]
    refine @head _ _ _ _ _ _ bs i [] o ?_ (ih wrote (read ++ bs))
    show (if bs.length ≤ bs.length then _ else _) = _
    rw [if_pos (Nat.le_refl _), List.take_length, List.drop_length]
    rfl

/-- A party runs its program, and its round is over. -/
theorem Party.Moves.round {p : Proc (σ × ρ)} {i o : Bytes} {s : σ} {a : ρ}
    (h : Proc.Runs p i o (s, a)) (wrote read : Bytes) (log : List (Round ρ)) :
    Moves next ⟨.busy p, wrote, read, log⟩ i o
      ⟨.idle s, [], [], log ++ [⟨a, wrote ++ o, read ++ i⟩]⟩ := by
  have hruns : Moves next ⟨.busy (p >>= .ret), wrote, read, log⟩ i o
      ⟨.busy (.ret (s, a)), wrote ++ o, read ++ i, log⟩ := runs h wrote read log
  rw [Proc.bind_ret] at hruns
  have hround := hruns.trans (finish s a (wrote ++ o) (read ++ i) log)
  rwa [List.append_nil, List.append_nil] at hround

/-- The steps of the first party, on the connection. -/
theorem Link.run_client (next' : τ → Option (Proc (τ × υ))) {c c' : Party σ ρ} {i o : Bytes}
    (h : Party.Moves next c i o c') (s : Party τ υ) (up down : Bytes) :
    ∃ xs, Run (Step next next') ⟨c, s, up, i ++ down⟩ xs ⟨c', s, up ++ o, down⟩ := by
  induction h generalizing up with
  | refl =>
    rw [List.append_nil]
    exact ⟨[], .start⟩
  | @head c d e i i' o o' hmove _ ih =>
    obtain ⟨xs, r⟩ := ih (up ++ o)
    rw [← List.append_assoc up, List.append_assoc i]
    refine ⟨.client :: xs, .cons ?_ r⟩
    simp only [Step, move, Party.move_append hmove, Option.map_some, List.nil_append]

/-- The steps of the second party, on the connection. -/
theorem Link.run_server (next : σ → Option (Proc (σ × ρ))) {s s' : Party τ υ} {i o : Bytes}
    (h : Party.Moves next' s i o s') (c : Party σ ρ) (up down : Bytes) :
    ∃ xs, Run (Step next next') ⟨c, s, i ++ up, down⟩ xs ⟨c, s', up, down ++ o⟩ := by
  induction h generalizing down with
  | refl =>
    rw [List.append_nil]
    exact ⟨[], .start⟩
  | @head c d e i i' o o' hmove _ ih =>
    obtain ⟨xs, r⟩ := ih (down ++ o)
    rw [← List.append_assoc down, List.append_assoc i]
    refine ⟨.server :: xs, .cons ?_ r⟩
    simp only [Step, move, Party.move_append hmove, Option.map_some, List.nil_append]

/-- The first party asks, the second party goes through the round of that request, and the first one
takes the response: each has read what the other has written. -/
theorem Link.exchange {α : Type} {p : Proc α} {k : α → Proc (σ × ρ)} {q : Proc (τ × υ)} {s s' : σ}
    {t t' : τ} {a : α} {x : ρ} {y : υ} {request response : Bytes} (hs : next s = some (p >>= k))
    (hp : Proc.Runs p [] request a) (hk : Proc.Runs (k a) response [] (s', x))
    (ht : next' t = some q) (hq : Proc.Runs q request response (t', y))
    (log : List (Round ρ)) (log' : List (Round υ)) :
    ∃ xs, Run (Step next next') ⟨⟨.idle s, [], [], log⟩, ⟨.idle t, [], [], log'⟩, [], []⟩ xs
      ⟨⟨.idle s', [], [], log ++ [⟨x, request, response⟩]⟩,
        ⟨.idle t', [], [], log' ++ [⟨y, response, request⟩]⟩, [], []⟩ := by
  have hask := (Party.Moves.begin hs log).trans (Party.Moves.runs (k := k) hp [] [] log)
  have hanswer := (Party.Moves.begin ht log').trans (Party.Moves.round hq [] [] log')
  have htake : Party.Moves next ⟨.busy (k a), request, [], log⟩ response []
      ⟨.idle s', [], [], log ++ [⟨x, request ++ [], [] ++ response⟩]⟩ :=
    Party.Moves.round hk request [] log
  obtain ⟨xs, rx⟩ := run_client next' hask ⟨.idle t, [], [], log'⟩ [] []
  obtain ⟨ys, ry⟩ := run_server next hanswer ⟨.busy (k a), request, [], log⟩ [] []
  obtain ⟨zs, rz⟩ := run_client next' htake
    ⟨.idle t', [], [], log' ++ [⟨y, response, request⟩]⟩ [] []
  simp only [List.nil_append, List.append_nil] at rx ry rz
  exact ⟨xs ++ ys ++ zs, (rx.append ry).append rz⟩

end

end GpuVirtmem.Lib
