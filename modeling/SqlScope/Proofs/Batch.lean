import SqlScope.Proofs.FailedWrite
import SqlScope.Proofs.Queueing

set_option autoImplicit false

namespace SqlScope

open SqlScope.Action

variable {α : Type} {t : Statement} {c : Connection} {s : Session} {u v w w' w₁ : World}

def Result.count? (r : Result) : Option Int :=
  match r.fault, r.rowCount with
  | none, .gives n => some (n.getD (-1))
  | _, _ => none

def answerTo (script : List Result) (i : Nat) : Result := script[i]?.getD default

def Counts (script : List Result) (counts : List Int) : Prop :=
  ∀ i n, counts[i]? = some n → (answerTo script i).count? = some n

def Statement.executions (t : Statement) (script : List Result) (entries : List (List Value)) : Calls :=
  entries.mapIdx fun i entry =>
    (.execute t.cursor t.sql (if entry.isEmpty then none else some entry), (answerTo script i).fault)

-- The executions of a batch, and closing the cursor. The first entry without a count is the last to run.
inductive Statement.Executed (t : Statement) (script : List Result) (entries : List (List Value)) :
    Calls → Except Failure (List Int) → Prop where
  | stopped {counts : List Int} {closing : Option Fault} {e : Failure} (few : counts.length < entries.length)
      (counted : Counts script counts) (failed : (answerTo script counts.length).count? = none) :
      Executed t script entries
        (t.executions script (entries.take (counts.length + 1)) ++ [(.closeCursor t.cursor, closing)]) (.error e)
  | unclosed {counts : List Int} {g : Fault} {e : Failure} (all : counts.length = entries.length)
      (counted : Counts script counts) :
      Executed t script entries (t.executions script entries ++ [(.closeCursor t.cursor, some g)]) (.error e)
  | done {counts : List Int} (all : counts.length = entries.length) (counted : Counts script counts) :
      Executed t script entries (t.executions script entries ++ [(.closeCursor t.cursor, none)]) (.ok counts)

inductive Connection.Decides (c : Connection) : Except Failure α → Calls → Except Failure α → Prop where
  | undone {e e' : Failure} {fault : Option Fault} : Decides c (.error e) [(.rollback c.raw, fault)] (.error e')
  | uncommitted {a : α} {g : Fault} {e : Failure} : Decides c (.ok a) [(.commit c.raw, some g)] (.error e)
  | committed {a : α} : Decides c (.ok a) [(.commit c.raw, none)] (.ok a)

-- A batch on a connection. Without a cursor there is nothing to execute; with one, all entries are bound first.
inductive Connection.Batches (c : Connection) (sql : String) (batch : Option (List Given)) :
    World → Except Failure (List Int) → World → Prop where
  | unopened {opening undoing : Calls} {e e' : Failure} {w u v : World}
      (refused : Statement.openBound c sql (Binder.ofBatch batch) w = .error e u)
      (opens : c.Reaches (.openCursor c.raw) w opening) (denied : ∀ made ∈ opening, made.2 ≠ none) (opened : Adds opening w u)
      (undoes : c.Reaches (.rollback c.raw) u undoing) (undone : Adds undoing u v) : Batches c sql batch w (.error e') v
  | bound {entries : List (List Value)} {t : Statement} {calls deciding : Calls} {counts o : Except Failure (List Int)}
      {w u v : World} (provided : Given.ProvidesAll batch entries)
      (bound : Statement.openBound c sql (Binder.ofBatch batch) w = .ok t u) (queued : t.Queued c sql entries w u)
      (executed : t.Executed (t.cursor.results u) entries calls counts) (decides : c.Decides counts deciding o)
      (made : Adds (calls ++ deciding) u v) : Batches c sql batch w o v

inductive Session.Yields (s : Session) (c : Connection) (consumer : α → Action Unit) :
    Except Failure α → World → EStateM.Result Failure World α → Prop where
  | failed {e : Failure} {v : World} {leave : Action Unit} (way : leave = pure () ∨ leave = s.releaseAfterFailure c) :
      Yields s c consumer (.error e) v ((leave >>= fun _ => throw e) v)
  | passed {a : α} {v : World} {leave : Action Unit} (way : leave = pure () ∨ leave = s.release c) :
      Yields s c consumer (.ok a) v ((leave >>= fun _ => consumer a >>= fun _ => pure a) v)

theorem count_of_fault {r : Result} {g : Fault} (fault : r.fault = some g) : r.count? = none := by
  rw [Result.count?, fault]

theorem count_of_gives {r : Result} {n : Option Int} (fault : r.fault = none) (gives : r.rowCount = .gives n) :
    r.count? = some (n.getD (-1)) := by
  rw [Result.count?, fault, gives]

theorem count_of_raises {r : Result} {g : Fault} (fault : r.fault = none) (raises : r.rowCount = .raises g) :
    r.count? = none := by
  rw [Result.count?, fault, raises]

theorem answer_first (script : List Result) : answerTo script 0 = script.head?.getD default := by
  rw [answerTo, List.head?_eq_getElem?]

theorem answer_later (script : List Result) (i : Nat) : answerTo script.tail i = answerTo script (i + 1) := by
  rw [answerTo, answerTo, List.getElem?_tail]

theorem counts_nothing (script : List Result) : Counts script [] := fun _ _ absurd => by cases absurd

theorem counts_cons {script : List Result} {n : Int} {counts : List Int} (first : (answerTo script 0).count? = some n)
    (rest : Counts script.tail counts) : Counts script (n :: counts) := by
  intro i m there
  cases i with
  | zero =>
      cases there
      exact first
  | succ i =>
      rw [← answer_later]
      exact rest i m there

namespace Statement

theorem executions_cons (t : Statement) (script : List Result) (entry : List Value) (rest : List (List Value)) :
    t.executions script (entry :: rest) =
      (.execute t.cursor t.sql (if entry.isEmpty then none else some entry), (answerTo script 0).fault) ::
        t.executions script.tail rest := by
  simp [executions, List.mapIdx_cons, answer_later]

theorem entry_runs (t : Statement) (entry : List Value) (w : World) :
    ∃ w', Adds [(.execute t.cursor t.sql (if entry.isEmpty then none else some entry),
        (answerTo (t.cursor.results w) 0).fault)] w w' ∧
      t.cursor.results w' = (t.cursor.results w).tail ∧ w'.statements = w.statements ∧
      ((answerTo (t.cursor.results w) 0).fault = none ∧ t.execute entry w = .ok () w' ∧
          t.cursor.record w' = (answerTo (t.cursor.results w) 0).opened ∨
        ∃ g e, (answerTo (t.cursor.results w) 0).fault = some g ∧ t.execute entry w = .error e w') := by
  let text := "Executing " ++ t.sql ++ " with " ++ toString entry.length ++ " parameter(s)"
  let w₀ := { w with history := .log .statement .debug text :: w.history }
  let given := if entry.isEmpty then none else some entry
  have logged : Adds [] w w₀ := adds_log rfl
  have begun : t.execute entry w =
      wrapping .execution ("Failed to execute " ++ Text.quoted t.sql) (t.cursor.execute t.sql given) w₀ := rfl
  have executes := t.cursor.execute_runs t.sql given w₀
  rw [← answer_first] at executes
  obtain ⟨w', adds, _, onward, same, ⟨clear, ran, record⟩ | ⟨g, fault, failed⟩⟩ := executes
  · exact ⟨w', adds_trans logged adds, onward, same, Or.inl ⟨clear, begun.trans (on_ordinary_of_ok ran), record⟩⟩
  · exact ⟨w', adds_trans logged adds, onward, same, Or.inr ⟨g, _, fault, begun.trans (wrapping_of_error failed _ _)⟩⟩

theorem step_runs (t : Statement) (entry : List Value) (w : World) :
    ∃ w', Adds [(.execute t.cursor t.sql (if entry.isEmpty then none else some entry),
        (answerTo (t.cursor.results w) 0).fault)] w w' ∧
      t.cursor.results w' = (t.cursor.results w).tail ∧ w'.statements = w.statements ∧
      ((∃ n, (answerTo (t.cursor.results w) 0).count? = some n ∧
          (t.execute entry >>= fun _ => t.count) w = .ok n w') ∨
        (answerTo (t.cursor.results w) 0).count? = none ∧
          ∃ e, (t.execute entry >>= fun _ => t.count) w = .error e w') := by
  let result := answerTo (t.cursor.results w) 0
  obtain ⟨w', adds, onward, same, ⟨clear, executed, record⟩ | ⟨g, e, fault, failed⟩⟩ := t.entry_runs entry w
  · have read : t.cursor.rowCount w' = result.rowCount.get w' := by
      have opened : t.cursor.record w' = result.opened := record
      have read : t.cursor.rowCount w' = (t.cursor.record w').result.rowCount.get w' := rfl
      rw [read, opened]
      rfl
    refine ⟨w', adds, onward, same, ?_⟩
    cases counts : result.rowCount with
    | gives n =>
        rw [counts] at read
        exact Or.inl ⟨_, count_of_gives clear counts, (bind_of_ok executed).trans (bind_of_ok read)⟩
    | raises g =>
        rw [counts] at read
        exact Or.inr ⟨count_of_raises clear counts, _, (bind_of_ok executed).trans (bind_of_error read)⟩
  · exact ⟨w', adds, onward, same, Or.inr ⟨count_of_fault fault, _, bind_of_error failed⟩⟩

theorem execute_all_cons (t : Statement) (entry : List Value) (rest : List (List Value)) :
    t.executeAll (entry :: rest) =
      (t.execute entry >>= fun _ => t.count) >>= fun n => t.executeAll rest >>= fun ns => pure (n :: ns) := by
  rw [bind_assoc]
  rfl

-- The induction is on the entries: what one of them leaves is where the next one starts.
theorem execute_all_runs (t : Statement) (entries : List (List Value)) (w : World) :
    ∃ counts w', Counts (t.cursor.results w) counts ∧ w'.statements = w.statements ∧
      (counts.length = entries.length ∧ t.executeAll entries w = .ok counts w' ∧
          Adds (t.executions (t.cursor.results w) entries) w w' ∨
        counts.length < entries.length ∧ (answerTo (t.cursor.results w) counts.length).count? = none ∧
          (∃ e, t.executeAll entries w = .error e w') ∧
          Adds (t.executions (t.cursor.results w) (entries.take (counts.length + 1))) w w') := by
  induction entries generalizing w with
  | nil => exact ⟨[], w, counts_nothing _, rfl, Or.inl ⟨rfl, rfl, adds_same rfl⟩⟩
  | cons entry rest ih =>
      obtain ⟨w₁, first, onward, same, ⟨n, counted, ran⟩ | ⟨uncounted, e, failed⟩⟩ := t.step_runs entry w
      · obtain ⟨counts, w', counts', same', outcome⟩ := ih w₁
        rw [onward] at counts' outcome
        have counting := counts_cons counted counts'
        refine ⟨n :: counts, w', counting, same'.trans same, ?_⟩
        rw [execute_all_cons, bind_of_ok ran, List.length_cons, List.length_cons]
        rcases outcome with ⟨all, later, adds⟩ | ⟨few, stopped, ⟨e, later⟩, adds⟩
        · refine Or.inl ⟨congrArg (· + 1) all, bind_of_ok later, ?_⟩
          rw [executions_cons]
          exact adds_trans first adds
        · refine Or.inr ⟨Nat.succ_lt_succ few, ?_, ⟨e, bind_of_error later⟩, ?_⟩
          · rw [answer_later] at stopped
            exact stopped
          · rw [List.take_succ_cons, executions_cons]
            exact adds_trans first adds
      · refine ⟨[], w₁, counts_nothing _, same, Or.inr ⟨Nat.succ_pos _, ?_, ⟨e, ?_⟩, ?_⟩⟩
        · exact uncounted
        · rw [execute_all_cons, bind_of_error failed]
        · rw [List.length_nil, List.take_succ_cons, List.take_zero, executions_cons]
          exact first

theorem run_batch_takes {entries : List (List Value)} (queue : (u.statements.get t.index).queue = entries) :
    t.runBatch u = t.executeAll entries ((t.update fun s => { s with queue := [] }).after u) := by
  have looked : t.state u = .ok (u.statements.get t.index) u := rfl
  rw [runBatch, bind_of_ok looked, queue]
  rfl

theorem close_makes (unclosed : (u.statements.get t.index).closed = false) : t.close.Makes (.closeCursor t.cursor) u := by
  have looked : t.state u = .ok (u.statements.get t.index) u := rfl
  unfold Action.Makes Ends
  rw [close, bind_of_ok looked, unclosed]
  exact ends_mono (t.cursor.close_makes _) (fun _ _ made => made) fun _ _ failed => failed

end Statement

theorem after_of_outcome {a : Action α} {o : Except Failure α} (run : a w = ofOutcome o v) : a.after w = v := by
  cases o with
  | ok b => exact after_of_ok run
  | error e => exact after_of_error run

theorem queue_runs {sql : String} {entries : List (List Value)} (queued : t.Queued c sql entries w u) :
    ∃ calls counts v, releasing t.close "statement" .execution t.runBatch u = ofOutcome counts v ∧
      t.Executed (t.cursor.results u) entries calls counts ∧ Adds calls u v := by
  let clear : StatementState → StatementState := fun s => { s with queue := [] }
  let u₁ := (t.update clear).after u
  have taken := Statement.run_batch_takes queued.queue
  have same : t.cursor.results u₁ = t.cursor.results u := rfl
  obtain ⟨counts, v, counted, files, outcome⟩ := t.execute_all_runs entries u₁
  rw [same] at counted outcome
  have closes : t.close.Makes (.closeCursor t.cursor) v := by
    refine Statement.close_makes ?_
    rw [files, (t.update_turns clear u).record]
    exact queued.unclosed
  rcases outcome with ⟨all, ran, adds⟩ | ⟨few, uncounted, ⟨e, failed⟩, adds⟩
  · rcases releasing_of_ok "statement" .execution closes (taken.trans ran) with ⟨w', done, made⟩ | ⟨e, g, w', failed, made⟩
    · exact ⟨_, .ok counts, w', done, .done all counted, adds_trans adds made⟩
    · exact ⟨_, .error e, w', failed, .unclosed all counted, adds_trans adds made⟩
  · obtain ⟨e', w', fault, failed', made⟩ := releasing_of_error "statement" .execution closes (taken.trans failed)
    exact ⟨_, .error e', w', failed', .stopped few counted uncounted, adds_trans adds made⟩

-- The failure of the work is on its way in any case, so what fails meanwhile makes no difference to the calls.
theorem undo_calls (outside : s.inScope v = false) (c : Connection) :
    ∃ calls, c.Reaches (.rollback c.raw) v calls ∧ Adds calls v ((s.undoWrite c).after v) := by
  obtain ⟨calls, reaches, adds⟩ := rollback_calls c v
  refine ⟨calls, reaches, ?_⟩
  rw [Action.after, undo_write_outside outside]
  cases ran : c.rollback v with
  | ok _ w₁ =>
      rw [after_of_ok ran] at adds
      rw [on_ordinary_of_ok ran]
      exact adds
  | error f w₁ =>
      rw [after_of_error ran] at adds
      rw [on_ordinary_of_error ran]
      by_cases ordinary : f.isOrdinary
      · rw [if_pos ordinary]
        have warned : Adds [] w₁ ((warn .session ("Rollback after failed write failed: " ++ f.text)).after w₁) := adds_log rfl
        have both := adds_trans adds warned
        rw [List.append_nil] at both
        exact both
      · rw [if_neg ordinary]
        exact adds

theorem written_of_error {body : Connection → Action α} {e : Failure} (outside : s.inScope v = false)
    (failed : body c w = .error e v) :
    ∃ calls e' w', s.written body c w = .error e' w' ∧ c.Reaches (.rollback c.raw) v calls ∧ Adds calls v w' := by
  obtain ⟨calls, reaches, adds⟩ := undo_calls outside c
  have begun : s.written body c w = (s.undoWrite c >>= fun _ => throw e) v := bind_of_ok (outcome_of_error failed)
  rw [begun]
  cases undone : s.undoWrite c v with
  | ok _ w' =>
      rw [after_of_ok undone] at adds
      exact ⟨calls, e, w', bind_of_ok undone, reaches, adds⟩
  | error e' w' =>
      rw [after_of_error undone] at adds
      exact ⟨calls, e', w', bind_of_error undone, reaches, adds⟩

theorem written_decides {body : Connection → Action α} {o : Except Failure α} (outside : s.inScope v = false)
    (lent : c.held v = .ok (.lent c.raw) v) (ran : body c w = ofOutcome o v) :
    ∃ calls o' w', s.written body c w = ofOutcome o' w' ∧ c.Decides o calls o' ∧ Adds calls v w' := by
  cases o with
  | error e =>
      obtain ⟨calls, e', w', failed, reaches, adds⟩ := written_of_error outside ran
      obtain ⟨fault, rfl⟩ := reaches_lent lent reaches
      exact ⟨_, .error e', w', failed, .undone, adds⟩
  | ok a =>
      have begun : s.written body c w = (s.commitWrite c >>= fun _ => pure a) v := bind_of_ok (outcome_of_ok ran)
      have called : c.commit v = c.raw.commit v := bind_of_ok lent
      have makes := c.raw.commit_makes v
      rw [begun]
      cases ran : c.raw.commit v with
      | ok _ w' =>
          have passed := commit_write_of_passed outside (called.trans ran)
          exact ⟨_, .ok a, w', bind_of_ok passed, .committed, makes_ok makes ran⟩
      | error f w' =>
          obtain ⟨g, _, made⟩ := ends_error makes ran
          obtain ⟨e, failed⟩ := commit_write_of_failed outside (called.trans ran)
          exact ⟨_, .error e, w', bind_of_error failed, .uncommitted, made⟩

theorem written_batches (sql : String) (batch : Option (List Given)) (outside : s.inScope w = false) (blank : w.Blank) :
    ∃ o v, s.written (fun c => c.runBatch sql batch) c w = ofOutcome o v ∧ c.Batches sql batch w o v := by
  let j : Job (List Int) := .batch sql batch
  have keeps : j.Keeps (fun _ => False) s := trivial
  have minds := (work_minding keeps c w trivial).2.1
  have still : ∀ r v, j.work c w = ofOutcome r v → s.inScope v = false := fun r v ran => by
    rw [after_of_outcome ran] at minds
    exact (congrArg SessionState.inTransaction minds).trans outside
  rcases open_bound_queues c sql batch blank with ⟨entries, t, u, provided, bound, queued⟩ |
    ⟨e, u, calls, refused, reaches, denied, adds⟩
  · obtain ⟨calls, counts, v, ran, executed, made⟩ := queue_runs queued
    have worked : j.work c w = ofOutcome counts v := (bind_of_ok bound).trans ran
    have on : t.On c.raw (fun _ => True) := ⟨queued.on, trivial⟩
    have acts := (releasing_acts "statement" .execution (t.close_acts on) (t.run_batch_acts on) u trivial).2
    rw [after_of_outcome ran] at acts
    obtain ⟨deciding, o, w', ended, decides, decided⟩ :=
      written_decides (still counts v worked) (held_unchanged queued.lent acts.proxies) worked
    exact ⟨o, w', ended, .bound provided bound queued executed decides (adds_trans made decided)⟩
  · have failed : j.work c w = .error e u := bind_of_error refused
    obtain ⟨undoing, e', v, ended, tries, undone⟩ := written_of_error (still (.error e) u failed) failed
    exact ⟨.error e', v, ended, .unopened refused reaches denied adds tries undone⟩

theorem yields_of_written {write : Connection → Action α} {o : Except Failure α} (entered : s.entry w = .ok c w₁)
    (ran : write c w₁ = ofOutcome o v) (consumer : α → Action Unit) :
    s.Yields c consumer o v ((s.holding write >>= fun a => consumer a >>= fun _ => pure a) w) := by
  obtain ⟨leave, way, run⟩ := holding_of_entered (α := α) entered
  have held : s.holding write w = leave (ofOutcome o v) := (run write).trans (congrArg leave ran)
  cases o with
  | error e =>
      have leaves : ∃ close, (close = pure () ∨ close = s.releaseAfterFailure c) ∧
          leave (.error e v) = (close >>= fun _ => throw e) v := by
        rcases way with rfl | rfl
        · exact ⟨pure (), Or.inl rfl, rfl⟩
        · exact ⟨_, Or.inr rfl, rfl⟩
      obtain ⟨close, closes, same⟩ := leaves
      rw [bind_congr (held.trans same) _, bind_assoc]
      exact .failed closes
  | ok a =>
      have leaves : ∃ close, (close = pure () ∨ close = s.release c) ∧
          leave (.ok a v) = (close >>= fun _ => pure a) v := by
        rcases way with rfl | rfl
        · exact ⟨pure (), Or.inl rfl, rfl⟩
        · exact ⟨_, Or.inr rfl, rfl⟩
      obtain ⟨close, closes, same⟩ := leaves
      rw [bind_congr (held.trans same) _, bind_assoc]
      exact .passed closes

theorem yields_ok {consumer : α → Action Unit} {o : Except Failure α} {r : EStateM.Result Failure World α} {a : α}
    (yields : s.Yields c consumer o v r) (returned : r = .ok a w') : o = .ok a := by
  cases yields with
  | failed way =>
      obtain ⟨_, _, _, thrown⟩ := ok_of_bind returned
      cases thrown
  | passed way =>
      obtain ⟨_, _, _, onward⟩ := ok_of_bind returned
      obtain ⟨_, _, _, same⟩ := ok_of_bind onward
      cases same
      rfl

-- Outside of all scopes a batch is all or nothing. Without a connection nothing is asked of the driver but to open
-- one. With one, each entry up to the first that fails runs once, in its order; then all are committed, or undone.
theorem batch_is_all_or_nothing (s : Session) (sql : String) (batch : Option (List Given)) (consumer : List Int → Action Unit)
    {w : World} (outside : s.inScope w = false) (blank : w.Blank) :
    let w' := (s.write fun c => c.runBatch sql batch).after w
    (∃ e, s.entry w = .error e w' ∧ Grew (fun call => call.opens = true) w w' ∧
        s.runBatch sql batch consumer w = .error e w') ∨
      ∃ c w₁ o v, s.entry w = .ok c w₁ ∧ Grew (fun call => call.opens = true) w w₁ ∧ c.Batches sql batch w₁ o v ∧
        Grew (fun call => call.closes = true) v w' ∧ s.Yields c consumer o v (s.runBatch sql batch consumer w) := by
  intro w'
  have obtained : ∀ c w₁, s.entry w = .ok c w₁ → ∃ o v, c.Batches sql batch w₁ o v ∧
      Grew (fun call => call.closes = true) v w' ∧ s.Yields c consumer o v (s.runBatch sql batch consumer w) := by
    intro c w₁ entered
    have still : s.inScope w₁ = false := (entry_in_scope entered).trans outside
    obtain ⟨o, v, ended, batches⟩ := written_batches (c := c) sql batch still (blank_entered blank entered)
    have leaves := leaves_grew (holding_leaves entered (s.written fun c => c.runBatch sql batch))
    rw [after_of_outcome ended] at leaves
    exact ⟨o, v, batches, leaves, yields_of_written entered ended consumer⟩
  rcases holding_cases s w with ⟨e, u, refused, drops, _, run⟩ | ⟨c, entered, _⟩ | ⟨c, w₁, entered, _⟩
  · left
    have ended : s.write (fun c => c.runBatch sql batch) w = .error e u := run _
    have there : w' = u := after_of_error ended
    rw [there]
    exact ⟨e, refused, drops.rest.grew, bind_of_error ended⟩
  · exact Or.inr ⟨c, w, _, _, entered, grew_same rfl, (obtained c w entered).choose_spec.choose_spec⟩
  · exact Or.inr ⟨c, w₁, _, _, entered, entry_grew entered, (obtained c w₁ entered).choose_spec.choose_spec⟩

-- A text of two characters, and nothing: the second entry runs without values. Both are committed at once.
theorem batch_of_two_entries :
    let s : Session := ⟨0, .plain⟩
    let counted (n : Option Int) : Result := { (default : Result) with rowCount := .gives n }
    let script := [counted (some 2), counted none]
    let w := World.start [{ (default : RawConnectionState) with results := script }] default 0
    let batch := some [Given.text "ab", .nothing]
    let q : RawCursor := ⟨⟨0⟩, 0⟩
    ∃ w₁ v w', s.entry w = .ok (.direct ⟨0⟩) w₁ ∧
      Adds [(.openCursor ⟨0⟩, none), (.execute q "UPDATE t" (some [.text "a", .text "b"]), none),
        (.execute q "UPDATE t" none, none), (.closeCursor q, none), (.commit ⟨0⟩, none)] w₁ v ∧
      s.runBatch "UPDATE t" batch (fun _ => pure ()) w = .ok [2, -1] w' := by
  intro s counted script w batch q
  have ran : ∃ w', s.runBatch "UPDATE t" batch (fun _ => pure ()) w = .ok [2, -1] w' := by
    dsimp only [s, counted, script, w, batch]
    exact ⟨_, rfl⟩
  obtain ⟨w', ran⟩ := ran
  have blank : w.Blank := fun _ _ => rfl
  rcases batch_is_all_or_nothing s "UPDATE t" batch (fun _ => pure ()) rfl blank with
    ⟨e, _, _, failed⟩ | ⟨c, w₁, o, v, entered, _, batches, _, yields⟩
  · cases ran.symm.trans failed
  · have gave : o = .ok [2, -1] := yields_ok yields ran
    subst gave
    cases entered
    refine ⟨_, v, w', rfl, ?_, ran⟩
    cases batches with
    | @bound entries t calls deciding _ _ _ u _ provided bound queued executed decides made =>
        cases decides
        cases executed with
        | done all counted =>
            have both : entries = [[.text "a", .text "b"], []] := by
              have provided : Given.ProvidesAll (some [.text "ab", .nothing]) entries := provided
              cases provided with
              | entries each =>
                  obtain _ | ⟨first, _ | ⟨second, others⟩⟩ := each
                  rw [Given.values_of_text first]
                  cases second
                  cases others
                  rfl
            subst both
            have calls := adds_trans queued.calls made
            cases bound
            exact calls

end SqlScope
