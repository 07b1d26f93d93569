import GpuVirtmem.Lib.Codec

/-!
# Programs that read and write a connection

A program puts bytes into a connection and gets bytes from it, in the order it chooses, until it
returns or fails. `Runs` says what it makes of an input: the bytes it takes, the bytes it writes and
what it returns. `on` is the program on a connection that may break at any point.

The programs are finite trees, so that every one of them ends; a loop of the source is a fold over a
list that is known when it starts. What a program does with a connection that works is fixed by the
bytes that it gets, and `Runs` is that function as a relation, so that it can be composed:
`Runs.bind` is the general rule, and the other rules for sequences are the cases in which one part
only reads or only writes.
-/

namespace GpuVirtmem.Lib

/-- A program on a connection. -/
inductive Proc (α : Type)
  | ret (a : α)
  | put (bs : Bytes) (k : Proc α)
  | get (n : Nat) (k : Bytes → Proc α)
  | fail (e : CFail)

namespace Proc

variable {α β : Type}

/-- The second program goes on with what the first one returns. -/
def bind : Proc α → (α → Proc β) → Proc β
  | .ret a, f => f a
  | .put bs k, f => .put bs (k.bind f)
  | .get n k, f => .get n fun bs => (k bs).bind f
  | .fail e, _ => .fail e

instance : Monad Proc where
  pure := .ret
  bind := bind

theorem bind_ret (p : Proc α) : p >>= Proc.ret = p := by
  induction p with
  | ret a => rfl
  | put bs k ih =>
    show Proc.put bs (k >>= Proc.ret) = _
    rw [ih]
  | get n k ih =>
    show (Proc.get n fun bs => k bs >>= Proc.ret) = _
    simp only [ih]
  | fail e => rfl

/-- Sequences of programs may be bracketed as a proof needs them: a program is cut behind its first
request and in front of what waits for the answer. -/
theorem bind_assoc {γ : Type} (p : Proc α) (f : α → Proc β) (g : β → Proc γ) :
    p >>= f >>= g = p >>= fun a => f a >>= g := by
  induction p with
  | ret a => rfl
  | put bs k ih =>
    show Proc.put bs (k >>= f >>= g) = Proc.put bs (k >>= fun a => f a >>= g)
    rw [ih]
  | get n k ih =>
    show (Proc.get n fun bs => k bs >>= f >>= g) = Proc.get n fun bs => k bs >>= fun a => f a >>= g
    simp only [ih]
  | fail e => rfl

/-- Bytes are written. -/
def send (bs : Bytes) : Proc Unit := .put bs (.ret ())

/-- `n` bytes are read. -/
def recv (n : Nat) : Proc Bytes := .get n .ret

/-- `n` bytes are read and decoded. -/
def receive (n : Nat) (r : Reader α) : Proc α :=
  .get n fun bs =>
    match r bs with
    | .ok (a, _) => .ret a
    | .error e => .fail e

/-- An assertion. -/
def check (b : Bool) : Proc Unit := if b then .ret () else .fail .assertFailed

/-- A computation that may fail. -/
def lift : Except CFail α → Proc α
  | .ok a => .ret a
  | .error e => .fail e

/-- The program takes the input `i`, writes `o` and returns `a`. -/
inductive Runs : Proc α → Bytes → Bytes → α → Prop
  | ret {a : α} : Runs (.ret a) [] [] a
  | put {bs i o : Bytes} {k : Proc α} {a : α} (h : Runs k i o a) : Runs (.put bs k) i (bs ++ o) a
  | get {n : Nat} {bs i o : Bytes} {k : Bytes → Proc α} {a : α} (hn : bs.length = n)
      (h : Runs (k bs) i o a) : Runs (.get n k) (bs ++ i) o a

theorem Runs.pure (a : α) : Runs (Pure.pure a : Proc α) [] [] a := .ret

/-- The rule for sequences: the second program takes the input behind that of the first one. -/
theorem Runs.bind {p : Proc α} {f : α → Proc β} {i o i' o' : Bytes} {a : α} {b : β}
    (h : Runs p i o a) (h' : Runs (f a) i' o' b) : Runs (p >>= f) (i ++ i') (o ++ o') b := by
  induction h with
  | ret => exact h'
  | put _ ih =>
    rw [List.append_assoc]
    exact .put (ih h')
  | get hn _ ih =>
    rw [List.append_assoc]
    exact .get hn (ih h')

/-- A program that writes nothing, before another one. -/
theorem Runs.bind_input {p : Proc α} {f : α → Proc β} {i i' o : Bytes} {a : α} {b : β}
    (h : Runs p i [] a) (h' : Runs (f a) i' o b) : Runs (p >>= f) (i ++ i') o b := h.bind h'

/-- A program that takes nothing, before another one. -/
theorem Runs.bind_output {p : Proc α} {f : α → Proc β} {i o o' : Bytes} {a : α} {b : β}
    (h : Runs p [] o a) (h' : Runs (f a) i o' b) : Runs (p >>= f) i (o ++ o') b := h.bind h'

/-- A program that takes all of the input, before one that writes all of the output. -/
theorem Runs.bind_turn {p : Proc α} {f : α → Proc β} {i o : Bytes} {a : α} {b : β}
    (h : Runs p i [] a) (h' : Runs (f a) [] o b) : Runs (p >>= f) i o b := by
  have hbind := h.bind_input h'
  rwa [List.append_nil] at hbind

/-- A program whose value is passed on. -/
theorem Runs.map {p : Proc α} {i o : Bytes} {a : α} (h : Runs p i o a) (f : α → β) :
    Runs (p >>= fun x => Pure.pure (f x)) i o (f a) := by
  have hret := h.bind (f := fun x => Pure.pure (f x)) (Runs.pure (f a))
  rwa [List.append_nil, List.append_nil] at hret

/-- What is sent is written, and nothing is taken. -/
theorem runs_send (bs : Bytes) : Runs (send bs) [] bs () := by
  have h : Runs (send bs) [] (bs ++ []) () := .put .ret
  rwa [List.append_nil] at h

/-- As many bytes as are asked for are taken. -/
theorem runs_recv {n : Nat} {bs : Bytes} (hn : bs.length = n) : Runs (recv n) bs [] bs := by
  have h : Runs (recv n) (bs ++ []) [] bs := .get hn .ret
  rwa [List.append_nil] at h

/-- What a decoder takes for a value is received as that value. -/
theorem runs_receive {n : Nat} {r : Reader α} {bs : Bytes} {a : α} (hr : Reader.Reads r bs a)
    (hn : bs.length = n) : Runs (receive n r) bs [] a := by
  have hread := hr []
  rw [List.append_nil] at hread
  have h : Runs (receive n r) (bs ++ []) [] a := by
    refine .get hn ?_
    rw [hread]
    exact .ret
  rwa [List.append_nil] at h

/-- An assertion that holds leaves no trace. -/
theorem runs_check {b : Bool} (h : b = true) : Runs (check b) [] [] () := by
  rw [check, if_pos h]
  exact .ret

/-- A computation that succeeds leaves no trace either. -/
theorem runs_lift {x : Except CFail α} {a : α} (h : x = .ok a) : Runs (lift x) [] [] a := by
  rw [h]
  exact .ret

/-! ## A connection that may break -/

/-- What a connection still does: the number of bytes that it takes, and those that arrive. -/
structure Net where
  accepts : Nat
  input : Bytes

/-- How a program ends: it returns, the connection breaks under it, or it aborts. -/
inductive Ending (α : Type)
  | done (a : α) (net : Net)
  | broken
  | aborted

theorem Ending.done_ne_broken (a : α) (net : Net) : Ending.done a net ≠ .broken := by
  intro h
  cases h

theorem Ending.aborted_ne_broken : (Ending.aborted : Ending α) ≠ .broken := by
  intro h
  cases h

/-- What goes on where a program has returned. -/
def Ending.andThen (x : Ending α) (f : α → Net → Ending β) : Ending β :=
  match x with
  | .done a net => f a net
  | .broken => .broken
  | .aborted => .aborted

/-- The program on a connection. A failure of the program's own is an error like a break, unless it
is an assertion. -/
def on : Proc α → Net → Ending α
  | .ret a, net => .done a net
  | .put bs k, net =>
    if bs.length ≤ net.accepts then
      k.on { accepts := net.accepts - bs.length, input := net.input }
    else .broken
  | .get n k, net =>
    if n ≤ net.input.length then
      (k (net.input.take n)).on { accepts := net.accepts, input := net.input.drop n }
    else .broken
  | .fail .error, _ => .broken
  | .fail _, _ => .aborted

/-- The rule for sequences on a connection that may break: where the first program has not returned,
the second one is not reached. Every proof about a broken connection goes along it. -/
theorem on_bind (p : Proc α) (f : α → Proc β) (net : Net) :
    (p >>= f).on net = (p.on net).andThen fun a net => (f a).on net := by
  induction p generalizing net with
  | ret a => rfl
  | put bs k ih =>
    show (Proc.put bs (k >>= f)).on net = _
    simp only [on]
    split
    · exact ih _
    · rfl
  | get n k ih =>
    show (Proc.get n fun bs => k bs >>= f).on net = _
    simp only [on]
    split
    · exact ih _ _
    · rfl
  | fail e =>
    show (Proc.fail e).on net = _
    cases e <;> rfl

/-- Where the connection takes and brings enough, the program returns. -/
theorem Runs.on {p : Proc α} {i o : Bytes} {a : α} (h : Runs p i o a) {accepts : Nat}
    (ho : o.length ≤ accepts) (rest : Bytes) :
    p.on ⟨accepts, i ++ rest⟩ = .done a ⟨accepts - o.length, rest⟩ := by
  induction h generalizing accepts with
  | ret => rfl
  | @put bs i o k a _ ih =>
    rw [List.length_append] at ho
    have hbs : bs.length ≤ accepts := by omega
    simp only [Proc.on, if_pos hbs]
    rw [ih (by omega), List.length_append, Nat.sub_add_eq]
  | @get n bs i o k a hn _ ih =>
    subst hn
    have hbs : bs.length ≤ (bs ++ (i ++ rest)).length := by
      rw [List.length_append]
      exact Nat.le_add_right ..
    rw [List.append_assoc]
    simp only [Proc.on, if_pos hbs, List.take_left, List.drop_left]
    exact ih ho

/-- A connection that takes fewer bytes than are sent is broken. -/
theorem on_send_short {bs : Bytes} {net : Net} (h : net.accepts < bs.length) :
    (send bs).on net = .broken := if_neg (Nat.not_le.mpr h)

/-- So is one on which fewer bytes arrive than are waited for. -/
theorem on_receive_short {n : Nat} {r : Reader α} {net : Net} (h : net.input.length < n) :
    (receive n r).on net = .broken := if_neg (Nat.not_le.mpr h)

end Proc

end GpuVirtmem.Lib
