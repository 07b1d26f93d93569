import GpuVirtmem.Lib.Link

/-!
# Programs that make calls

A program makes calls and goes on with what they return. `Runs` is the program where each call is
served at once, and `next` the program as the client of a connection, where a call may be an
exchange with the server at the other end. If every call that is served at once is also served by an
exchange, the connection leads to the end of the run, however the two sides are interleaved.

What has to be shown of a concrete connection is `Served`: for one call, the rounds of the client
and the turn of the server. The rest is the same for each of them: the order of the calls, what the
program does with the results, and the way in which the two sides take turns.
-/

namespace GpuVirtmem.Lib

/-- A program that makes calls and returns. -/
inductive Program (κ ρ α : Type)
  | done (a : α)
  | call (c : κ) (k : ρ → Program κ ρ α)

namespace Program

variable {κ ρ α τ υ : Type}

/-- The program run where `serves t c t' r` says that the call `c` in the state `t` leaves `t'` and
returns `r`: the state at its end, what the calls have returned, and what the program returns. -/
inductive Runs (serves : τ → κ → τ → ρ → Prop) : Program κ ρ α → τ → List ρ → τ → α → Prop
  | done {a : α} {t : τ} : Runs serves (.done a) t [] t a
  | call {c : κ} {k : ρ → Program κ ρ α} {t u v : τ} {r : ρ} {rs : List ρ} {a : α}
      (hc : serves t c u r) (h : Runs serves (k r) u rs v a) :
      Runs serves (.call c k) t (r :: rs) v a

/-- In no run does the program make a call that the condition does not hold of. -/
def Safe (serves : τ → κ → τ → ρ → Prop) (P : κ → Prop) : Program κ ρ α → τ → Prop
  | .done _, _ => True
  | .call c k, t => P c ∧ ∀ u r, serves t c u r → (k r).Safe serves P u

/-- Two ways of serving calls that go together on the calls of a program: there is a run for each,
with the same results. The condition has to hold only of the calls that the program really makes,
which is what `Safe` says; that is why the induction is on the program and not on a list of
calls. -/
theorem Safe.runs_both {σ : Type} {serves : τ → κ → τ → ρ → Prop} {serves' : σ → κ → σ → ρ → Prop}
    {P : κ → Prop} {R : τ → σ → Prop} {p : Program κ ρ α} {t : τ} {s : σ}
    (h : p.Safe serves P t) (hR : R t s)
    (hboth : ∀ t s c, R t s → P c → ∃ u v r, serves t c u r ∧ serves' s c v r ∧ R u v) :
    ∃ rs u v a, Runs serves p t rs u a ∧ Runs serves' p s rs v a ∧ R u v := by
  induction p generalizing t s with
  | done a => exact ⟨[], t, s, a, .done, .done, hR⟩
  | call c k ih =>
    obtain ⟨hc, hsafe⟩ := h
    obtain ⟨u, v, r, hu, hv, hR'⟩ := hboth t s c hR hc
    obtain ⟨rs, u', v', a, hrun, hrun', hend⟩ := ih r (hsafe u r hu) hR'
    exact ⟨r :: rs, u', v', a, .call hu hrun, .call hv hrun', hend⟩

/-- The program as the client of a connection, with the body of a call. -/
def next (body : κ → Proc ρ) : Program κ ρ α → Option (Proc (Program κ ρ α × ρ))
  | .done _ => none
  | .call c k => some (body c >>= fun r => pure (k r, r))

/-- The body of a call and at most one turn of the server serve the call. -/
inductive Served (body : κ → Proc ρ) (turn : τ → Proc (τ × υ)) (t : τ) (c : κ) : τ → ρ → Prop
  | alone {r : ρ} (hbody : Proc.Runs (body c) [] [] r) : Served body turn t c t r
  | exchange {β : Type} {ask : Proc β} {answer : β → Proc ρ} {b : β} {u : τ} {y : υ} {r : ρ}
      {request response : Bytes} (hbody : body c = ask >>= answer)
      (hask : Proc.Runs ask [] request b) (hanswer : Proc.Runs (answer b) response [] r)
      (hturn : Proc.Runs (turn t) request response (u, y)) : Served body turn t c u r

/-- A client and a server between two calls. -/
def between (p : Program κ ρ α) (t : τ) (log : List (Round ρ)) (log' : List (Round υ)) :
    Link (Program κ ρ α) ρ τ υ :=
  { client := ⟨.idle p, [], [], log⟩, server := ⟨.idle t, [], [], log'⟩, up := [], down := [] }

/-- The server's next round is its next turn. -/
def always (turn : τ → Proc (τ × υ)) (t : τ) : Option (Proc (τ × υ)) := some (turn t)

/-- The connection leads to one end, in which the client has returned `a`, its calls have returned
`rs` and the server is left in the state `u`. No run of the two sides fails, in each the calls so
far have returned the first of `rs`, and each can be completed to that end, in as many steps. -/
def RunsRemotely (body : κ → Proc ρ) (turn : τ → Proc (τ × υ)) (p : Program κ ρ α) (t : τ)
    (rs : List ρ) (u : τ) (a : α) : Prop :=
  ∃ (e : Link (Program κ ρ α) ρ τ υ) (steps : Nat),
    e.client.mode = .idle (.done a) ∧ e.client.log.map Round.result = rs ∧
    e.server.mode = .busy (turn u) ∧ e.up = [] ∧ e.down = [] ∧
    ∀ xs m, Run (Link.Step (next body) (always turn)) (between p t [] []) xs m →
      m.client.failed = false ∧ m.server.failed = false ∧
      m.client.log.map Round.result <+: rs ∧
      ∃ ys, Run (Link.Step (next body) (always turn)) m ys e ∧ xs.length + ys.length = steps

section

variable {body : κ → Proc ρ} {turn : τ → Proc (τ × υ)} {serves : τ → κ → τ → ρ → Prop}
  {p : Program κ ρ α} {t u : τ} {rs : List ρ} {a : α} {c : κ} {r : ρ}

/-- The steps of one call: the client sends and waits, the server takes a turn when there is
something for it, and the client goes on with what came back. A call that does not reach the server
leaves it where it was. -/
theorem Served.run (h : Served body turn t c u r) (k : ρ → Program κ ρ α) (log : List (Round ρ))
    (log' : List (Round υ)) :
    ∃ round rounds xs, round.result = r ∧ Run (Link.Step (next body) (always turn))
      (between (.call c k) t log log') xs (between (k r) u (log ++ [round]) (log' ++ rounds)) := by
  have hnext : next body (.call c k) = some (body c >>= fun r => pure (k r, r)) := rfl
  cases h with
  | alone hbody =>
    have hround : Proc.Runs (body c >>= fun r => pure (k r, r)) [] [] (k r, r) :=
      hbody.map fun r => (k r, r)
    have hmoves := (Party.Moves.begin hnext log).trans (Party.Moves.round hround [] [] log)
    obtain ⟨xs, run⟩ := Link.run_client (always turn) hmoves ⟨.idle t, [], [], log'⟩ [] []
    refine ⟨⟨r, [], []⟩, [], xs, rfl, ?_⟩
    rw [List.append_nil]
    exact run
  | @exchange β ask answer b u y r request response hbody hask hanswer hturn =>
    have hround : always turn t = some (turn t) := rfl
    rw [hbody, Proc.bind_assoc] at hnext
    obtain ⟨xs, run⟩ :=
      Link.exchange hnext hask (hanswer.map fun r => (k r, r)) hround hturn log log'
    exact ⟨_, _, xs, rfl, run⟩

/-- The steps of the whole program, one call after the other. Between two calls the streams are
empty again, so that the induction over the run has the same state to start from each time. -/
theorem Runs.run (h : Runs serves p t rs u a)
    (hserved : ∀ t c u r, serves t c u r → Served body turn t c u r) (log : List (Round ρ))
    (log' : List (Round υ)) :
    ∃ rounds rounds' xs, rounds.map Round.result = rs ∧
      Run (Link.Step (next body) (always turn)) (between p t log log') xs
        (between (.done a) u (log ++ rounds) (log' ++ rounds')) := by
  induction h generalizing log log' with
  | done =>
    refine ⟨[], [], [], rfl, ?_⟩
    rw [List.append_nil, List.append_nil]
    exact .start
  | @call c k t u v r rs a hc _ ih =>
    obtain ⟨round, rounds₁, xs, hr, hcall⟩ := (hserved t c u r hc).run k log log'
    obtain ⟨rounds, rounds', ys, hrs, hrest⟩ := ih (log ++ [round]) (log' ++ rounds₁)
    rw [List.append_assoc, List.append_assoc] at hrest
    refine ⟨round :: rounds, rounds₁ ++ rounds', xs ++ ys, ?_, hcall.append hrest⟩
    rw [List.map_cons, hr, hrs]

/-- A server that begins each turn by waiting for bytes has no step between two calls. The end of
the program is therefore an end of the whole connection, and not a place that the server could still
move away from. -/
theorem ended_waiting (hwaits : ∀ t, ∃ n k, turn t = .get n k ∧ 0 < n) (log : List (Round ρ))
    (log' : List (Round υ)) :
    Link.Ended (next body) (always turn)
      ({ client := ⟨.idle (.done a), [], [], log⟩, server := ⟨.busy (turn u), [], [], log'⟩
         up := [], down := [] } : Link (Program κ ρ α) ρ τ υ) := by
  intro x
  cases x with
  | client => rfl
  | server =>
    obtain ⟨n, k, hget, hn⟩ := hwaits u
    have hshort : ¬n ≤ ([] : Bytes).length := Nat.not_le.mpr hn
    simp only [Link.move, Party.move, hget, if_neg hshort, Option.map_none]

/-- The program runs remotely as it runs where each call is served at once. One interleaving is
built by `Runs.run`; that all others end in the same state is the confluence of the two sides. -/
theorem Runs.remotely (h : Runs serves p t rs u a)
    (hserved : ∀ t c u r, serves t c u r → Served body turn t c u r)
    (hwaits : ∀ t, ∃ n k, turn t = .get n k ∧ 0 < n) : RunsRemotely body turn p t rs u a := by
  obtain ⟨rounds, rounds', xs, hrs, hrun⟩ := h.run hserved [] []
  -- the server goes on to wait for the next request
  let e : Link (Program κ ρ α) ρ τ υ :=
    { client := ⟨.idle (.done a), [], [], rounds⟩, server := ⟨.busy (turn u), [], [], rounds'⟩
      up := [], down := [] }
  have hwait : Link.Step (next body) (always turn) (between (.done a) u rounds rounds') .server e :=
    rfl
  have hend : e.Ended (next body) (always turn) := ended_waiting hwaits rounds rounds'
  refine ⟨e, (xs ++ [Side.server]).length, rfl, hrs, rfl, rfl, rfl, ?_⟩
  intro ys m hm
  obtain ⟨zs, hzs, hcount⟩ := Link.completes (hrun.snoc hwait) hend hm
  obtain ⟨hclient, -, hclientFails, hserverFails⟩ := Link.run_log hzs
  have hclientRuns : e.client.failed = false := rfl
  have hserverRuns : e.server.failed = false := by
    obtain ⟨n, k, hget, -⟩ := hwaits u
    simp only [e, Party.failed, hget]
  refine ⟨?_, ?_, hrs ▸ hclient.map Round.result, zs, hzs, hcount⟩
  · rw [← Bool.not_eq_true]
    intro hfailed
    rw [hclientFails hfailed] at hclientRuns
    cases hclientRuns
  · rw [← Bool.not_eq_true]
    intro hfailed
    rw [hserverFails hfailed] at hserverRuns
    cases hserverRuns

end

end Program

end GpuVirtmem.Lib
