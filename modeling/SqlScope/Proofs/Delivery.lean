import SqlScope.Proofs.AfterFailure
import SqlScope.Proofs.Pages

set_option autoImplicit false

namespace SqlScope

open SqlScope.Action

variable {α β : Type} {q : RawCursor} {r : RowCursor} {f : Row → Action α} {calls : Calls} {u v w w' : World}

structure RawCursor.Spared (q : RawCursor) (w w' : World) : Prop where
  grew : Grew (fun call => call.fetches q = false) w w'
  opened : q.Opened w'
  record : q.record w' = q.record w

def RawCursor.Spares (q : RawCursor) (a : Action α) : Prop := ∀ w, q.Opened w → q.Spared w (a.after w)

-- The rows that a visitor gets between two worlds. Before each of them the cursor moves without a failure. The
-- last moves give no row: the page is over, or one of them failed. A visitor that fails gets no other row.
inductive Delivers (q : RawCursor) (f : Row → Action α) : List Row → World → Except Failure (List α) → World → Prop where
  | ended {calls : Calls} {w w' : World} (moved : q.Works calls w w') (trying : q.Trying calls) :
      Delivers q f [] w (.ok []) w'
  | broken {calls : Calls} {e : Failure} {w w' : World} (moved : q.Works calls w w') (trying : q.Trying calls) :
      Delivers q f [] w (.error e) w'
  | row {calls : Calls} {row : Row} {rest : List Row} {a : α} {o : Except Failure (List α)} {w u v w' : World}
      (moved : q.Works calls w u) (moving : q.Moving calls) (visited : f row u = .ok a v)
      (onward : Delivers q f rest v o w') : Delivers q f (row :: rest) w (o.map (a :: ·)) w'
  | stopped {calls : Calls} {row : Row} {e : Failure} {w u v : World}
      (moved : q.Works calls w u) (moving : q.Moving calls) (failed : f row u = .error e v) :
      Delivers q f [row] w (.error e) v

inductive Serves (q : RawCursor) (columns : Action Unit) (f : Row → Action α) :
    List Row → World → Except Failure (List α) → World → Prop where
  | refused {e : Failure} {w v : World} (failed : columns w = .error e v) : Serves q columns f [] w (.error e) v
  | shown {rows : List Row} {o : Except Failure (List α)} {w u v : World} (ran : columns w = .ok () u)
      (delivers : Delivers q f rows u o v) : Serves q columns f rows w o v

theorem adds_of_grew {P : Call → Prop} (grew : Grew P w w') : ∃ calls, Adds calls w w' ∧ ∀ made ∈ calls, P made.1 := by
  obtain ⟨added, grown, meets⟩ := grew
  refine ⟨_, ⟨added, grown, rfl⟩, fun made member => ?_⟩
  obtain ⟨e, inside, called⟩ := List.mem_filterMap.mp member
  have holds := meets e (List.mem_reverse.mp inside)
  cases e with
  | call call fault =>
      cases called
      exact holds
  | _ => cases called

namespace RowCursor

end RowCursor

end SqlScope
