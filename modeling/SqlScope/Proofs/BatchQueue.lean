import SqlScope.Proofs.Batch

set_option autoImplicit false

namespace SqlScope

open SqlScope.Action

variable {t : Statement} {w w' : World}

inductive Use where
  | set (i : Int) (v : Value)
  | clear
  | bind (given : Given)
  | bindBatch (batch : Option (List Given))
  | enqueue
  | update
  | batch

namespace Statement

def queued (t : Statement) (w : World) : List (List Value) := (w.statements.get t.index).queue

def ready? (t : Statement) (w : World) : Option (List Value) :=
  match t.parameters w with
  | .ok values _ => some values
  | .error _ _ => none

end Statement

-- The entries that binding a batch queues: it stops at the first one that cannot be queued.
def Binder.added (t : Statement) : List Given → World → List (List Value)
  | [], _ => []
  | given :: rest, w =>
    let bound := (ofGiven given t).after w
    match t.ready? bound with
    | some values => values :: added t rest (t.clear.after (t.enqueue.after bound))
    | none => []

def callsSince (w w' : World) : Calls :=
  (w'.history.take (w'.history.length - w.history.length)).reverse.filterMap Event.call?

def Call.passed? : Call → Option (List Value)
  | .execute _ _ parameters => some (parameters.getD [])
  | _ => none

namespace Use

def after (t : Statement) (w : World) : Use → World
  | set i v => (t.set i v).after w
  | clear => t.clear.after w
  | bind given => (Binder.ofGiven given t).after w
  | bindBatch given => (Binder.ofBatch given t).after w
  | enqueue => t.enqueue.after w
  | update => t.runUpdate.after w
  | batch => t.runBatch.after w

def added (t : Statement) (w : World) : Use → List (List Value)
  | bindBatch given => Binder.added t (given.getD []) w
  | enqueue => (t.ready? w).toList
  | _ => []

def executed (t : Statement) (w : World) : Use → List (List Value)
  | batch => (callsSince w (t.runBatch.after w)).filterMap fun made => made.1.passed?
  | _ => []

end Use

namespace Statement

def afterAll (t : Statement) (uses : List Use) (w : World) : World := uses.foldl (Use.after t) w

def added (t : Statement) : List Use → World → List (List Value)
  | [], _ => []
  | u :: rest, w => u.added t w ++ t.added rest (u.after t w)

def executed (t : Statement) : List Use → World → List (List Value)
  | [], _ => []
  | u :: rest, w => u.executed t w ++ t.executed rest (u.after t w)

inductive RunsBatch (t : Statement) (entries : List (List Value)) (w : World) :
    EStateM.Result Failure World (List Int) → Prop where
  | all {counts : List Int} {w' : World} (each : counts.length = entries.length)
      (counted : Counts (t.cursor.results w) counts)
      (made : Adds (t.executions (t.cursor.results w) entries) w w') : RunsBatch t entries w (.ok counts w')
  | stopped {j : Nat} {e : Failure} {w' : World} (few : j < entries.length)
      (counted : ∀ i, i < j → (answerTo (t.cursor.results w) i).count? ≠ none)
      (failed : (answerTo (t.cursor.results w) j).count? = none)
      (made : Adds (t.executions (t.cursor.results w) (entries.take (j + 1))) w w') :
      RunsBatch t entries w (.error e w')

def queueing (t : Statement) : Law where
  inv _ := True
  rel w w' := t.queued w' = t.queued w
  refl _ := rfl
  trans _ _ _ first second := second.trans first

theorem update_queues (t : Statement) {f : StatementState → StatementState} (keeps : ∀ s, (f s).queue = s.queue) :
    t.queueing.Kept (t.update f) := by
  refine kept_modify fun w _ => ⟨trivial, ?_⟩
  change (((w.statements.put t.index _).get t.index).queue) = _
  rw [Table.get_put, if_pos rfl, keeps]
  rfl

theorem queueing_binds (t : Statement) : t.queueing.Binds t := ⟨fun _ => t.update_queues fun _ => rfl⟩

theorem set_from_ok (t : Statement) {i : Int} (low : 1 ≤ i) (values : List Value) (w : World) :
    ∃ w', Binder.setFrom t i values w = .ok () w' := by
  induction values generalizing i w with
  | nil => exact ⟨w, rfl⟩
  | cons v rest ih =>
      obtain ⟨w', ran⟩ := ih (by omega : 1 ≤ i + 1) _
      exact ⟨w', (bind_of_ok (t.set_within low v w)).trans ran⟩

theorem of_given_ok (t : Statement) (given : Given) (w : World) : ∃ w', Binder.ofGiven given t w = .ok () w' := by
  cases given with
  | nothing => exact ⟨w, rfl⟩
  | list values => exact t.set_from_ok (Int.le_refl 1) values w
  | text s => exact t.set_from_ok (Int.le_refl 1) _ w

theorem run_update_queues (t : Statement) : t.queueing.Kept t.runUpdate := by
  refine kept_bind t.parameters_kept fun values => kept_bind (fun w _ => ⟨trivial, ?_⟩) fun _ => t.count_kept
  change (((t.execute values).after w).statements.get t.index).queue = (w.statements.get t.index).queue
  obtain ⟨w', _, _, same, ⟨_, ran, _⟩ | ⟨_, e, _, failed⟩⟩ := t.entry_runs values w
  · rw [after_of_ok ran, same]
  · rw [after_of_error failed, same]

theorem enqueue_cases (t : Statement) (w : World) :
    (∃ entry w', t.ready? w = some entry ∧ t.enqueue w = .ok () w' ∧ t.queued w' = t.queued w ++ [entry]) ∨
      ∃ e, t.ready? w = none ∧ t.enqueue w = .error e w := by
  have same : t.parameters.after w = w := (t.parameters_kept (l := still) w trivial).2
  cases given : t.parameters w with
  | ok entry u =>
      rw [after_of_ok given] at same
      subst same
      let file : StatementState → StatementState := fun s => { s with queue := s.queue ++ [entry] }
      refine Or.inl ⟨entry, (t.update file).after u, by rw [ready?, given], bind_of_ok given, ?_⟩
      exact congrArg StatementState.queue (t.update_turns file u).record
  | error e u =>
      rw [after_of_error given] at same
      subst same
      exact Or.inr ⟨e, by rw [ready?, given], bind_of_error given⟩

theorem queued_after_enqueue (t : Statement) (w : World) :
    t.queued (t.enqueue.after w) = t.queued w ++ (t.ready? w).toList := by
  rcases t.enqueue_cases w with ⟨entry, w', given, ran, queued⟩ | ⟨e, missing, failed⟩
  · rw [after_of_ok ran, given, queued, Option.toList_some]
  · rw [after_of_error failed, missing, Option.toList_none, List.append_nil]

theorem queued_after_entries (t : Statement) (batch : List Given) (w : World) :
    t.queued ((Binder.ofEntries batch t).after w) = t.queued w ++ Binder.added t batch w := by
  induction batch generalizing w with
  | nil => exact (List.append_nil _).symm
  | cons given rest ih =>
      obtain ⟨u, bound⟩ := t.of_given_ok given w
      have there : (Binder.ofGiven given t).after w = u := after_of_ok bound
      have kept : t.queued u = t.queued w := by
        rw [← there]
        exact (Binder.of_given_kept t.queueing_binds given w trivial).2
      rw [Binder.ofEntries, after_bind_of_ok bound, Binder.added, there]
      rcases t.enqueue_cases u with ⟨values, v, ready, ran, queued⟩ | ⟨e, missing, failed⟩
      · have cleared : t.clear v = .ok () (t.clear.after v) := rfl
        have emptied : t.queued (t.clear.after v) = t.queued v := (clear_kept t.queueing_binds v trivial).2
        rw [after_bind_of_ok ran, after_bind_of_ok cleared, ih, ready, after_of_ok ran, emptied, queued, kept]
        simp
      · rw [after_of_error (bind_of_error failed), missing, kept, List.append_nil]

theorem run_batch_runs (t : Statement) (w : World) :
    t.RunsBatch (t.queued w) w (t.runBatch w) ∧ t.queued (t.runBatch.after w) = [] := by
  let empty : StatementState → StatementState := fun s => { s with queue := [] }
  let w₁ := (t.update empty).after w
  have taken : t.runBatch w = t.executeAll (t.queued w) w₁ := run_batch_takes rfl
  have script : t.cursor.results w₁ = t.cursor.results w := rfl
  have record : t.queued w₁ = [] := congrArg StatementState.queue (t.update_turns empty w).record
  obtain ⟨counts, v, counted, files, ran⟩ := t.execute_all_runs (t.queued w) w₁
  rw [script] at counted ran
  have emptied : t.queued v = [] := by
    rw [queued, files]
    exact record
  rcases ran with ⟨each, ran, adds⟩ | ⟨few, failed, ⟨e, stopped⟩, adds⟩
  · rw [after_of_ok (taken.trans ran), taken, ran]
    exact ⟨.all each counted adds, emptied⟩
  · rw [after_of_error (taken.trans stopped), taken, stopped]
    refine ⟨.stopped few (fun i before none => ?_) failed adds, emptied⟩
    rw [counted i counts[i] (List.getElem?_eq_getElem before)] at none
    cases none

theorem queued_after_use (t : Statement) (w : World) {u : Use} (other : u ≠ .batch) :
    t.queued (u.after t w) = t.queued w ++ u.added t w := by
  cases u with
  | set i v => exact (set_kept t.queueing_binds i v w trivial).2.trans (List.append_nil _).symm
  | clear => exact (clear_kept t.queueing_binds w trivial).2.trans (List.append_nil _).symm
  | bind given => exact (Binder.of_given_kept t.queueing_binds given w trivial).2.trans (List.append_nil _).symm
  | bindBatch given => exact t.queued_after_entries (given.getD []) w
  | enqueue => exact t.queued_after_enqueue w
  | update => exact (t.run_update_queues w trivial).2.trans (List.append_nil _).symm
  | batch => exact absurd rfl other

theorem queued_after_all (t : Statement) (uses : List Use) (w : World) (unrun : .batch ∉ uses) :
    t.queued (t.afterAll uses w) = t.queued w ++ t.added uses w := by
  induction uses generalizing w with
  | nil => exact (List.append_nil _).symm
  | cons u rest ih =>
      have other : u ≠ .batch := fun same => unrun (same ▸ List.mem_cons_self)
      have later : .batch ∉ rest := fun member => unrun (List.mem_cons_of_mem u member)
      have first := t.queued_after_use w other
      rw [afterAll, List.foldl_cons]
      change t.queued (t.afterAll rest (u.after t w)) = _
      rw [ih (u.after t w) later, first, added, List.append_assoc]

theorem queued_after_batch (t : Statement) (earlier : List Use) (w : World) :
    t.queued (t.afterAll (earlier ++ [.batch]) w) = [] := by
  rw [afterAll, List.foldl_append]
  exact (t.run_batch_runs _).2

end Statement

theorem calls_since {calls : Calls} (adds : Adds calls w w') : callsSince w w' = calls := by
  obtain ⟨added, grown, rfl⟩ := adds
  have length : w'.history.length - w.history.length = added.length := by simp [grown]
  rw [callsSince, length, grown, List.take_left]

namespace Statement

theorem executions_pass (t : Statement) (script : List Result) (entries : List (List Value)) :
    (t.executions script entries).filterMap (fun made => made.1.passed?) = entries := by
  induction entries generalizing script with
  | nil => rfl
  | cons entry rest ih =>
      rw [executions_cons, List.filterMap_cons_some (b := entry) ?_, ih]
      cases entry <;> rfl

theorem batch_passes (t : Statement) (w : World) : ∃ n, Use.batch.executed t w = (t.queued w).take n := by
  have passed : ∀ {entries : List (List Value)} {w' : World},
      Adds (t.executions (t.cursor.results w) entries) w w' →
        (callsSince w w').filterMap (fun made => made.1.passed?) = entries := fun adds => by
    rw [calls_since adds, executions_pass]
  have runs := (t.run_batch_runs w).1
  rw [Use.executed]
  cases ran : t.runBatch w with
  | ok counts w' =>
      rw [ran] at runs
      cases runs with
      | all each counted made => exact ⟨(t.queued w).length, by rw [after_of_ok ran, passed made, List.take_length]⟩
  | error e w' =>
      rw [ran] at runs
      cases runs with
      | stopped few counted failed made => exact ⟨_, by rw [after_of_error ran, passed made]⟩

theorem executed_in_order (t : Statement) (uses : List Use) (w : World) :
    (t.executed uses w).Sublist (t.queued w ++ t.added uses w) := by
  induction uses generalizing w with
  | nil => exact List.nil_sublist _
  | cons u rest ih =>
      have later := ih (u.after t w)
      rw [executed, added]
      by_cases batch : u = .batch
      · subst batch
        obtain ⟨n, passed⟩ := t.batch_passes w
        have emptied : t.queued (Use.batch.after t w) = [] := (t.run_batch_runs w).2
        rw [emptied, List.nil_append] at later
        rw [passed]
        exact (List.take_sublist n _).append later
      · have still : u.executed t w = [] := by cases u <;> first | rfl | exact absurd rfl batch
        rw [t.queued_after_use w batch, List.append_assoc] at later
        rw [still, List.nil_append]
        exact later

end Statement

-- For all that is done with a statement from the start, or from a batch on, whatever failed: the batches pass the
-- entries that were added since, with the values bound when they were added, each at most once and in this order. The
-- next batch runs all of them, or the ones up to the first that fails; the others are never run. An entry that cannot
-- be queued changes nothing.
theorem batch_queue_runs_in_order (t : Statement) (earlier later : List Use) (empty : t.queued w = [])
    (parted : earlier = [] ∨ ∃ before, earlier = before ++ [.batch]) :
    let u := t.afterAll earlier w
    let v := t.afterAll later u
    (t.executed later u).Sublist (t.added later u) ∧
    (.batch ∉ later → t.RunsBatch (t.added later u) v (t.runBatch v)) ∧
    ∀ e v', t.enqueue v = .error e v' → v' = v := by
  intro u v
  have start : t.queued u = [] := by
    rcases parted with rfl | ⟨before, rfl⟩
    · exact empty
    · exact t.queued_after_batch before w
  refine ⟨?_, fun unrun => ?_, fun e v' failed => ?_⟩
  · have covered := t.executed_in_order later u
    rw [start, List.nil_append] at covered
    exact covered
  · have filled := t.queued_after_all later u unrun
    rw [start, List.nil_append] at filled
    rw [← filled]
    exact (t.run_batch_runs v).1
  · rcases t.enqueue_cases v with ⟨_, _, _, ran, _⟩ | ⟨_, _, failed'⟩
    · cases failed.symm.trans ran
    · cases failed.symm.trans failed'
      rfl

-- A value set after an entry was queued does not change it, and an entry with a gap is not queued. The second of the
-- two entries fails, long after the first batch.
theorem entries_queued_after_batch :
    let t : Statement := ⟨0, "INSERT INTO t VALUES (?)", ⟨⟨0⟩, 0⟩⟩
    let broken : Result := { (default : Result) with fault := some (Kind.driver.fault "duplicate") }
    let w := World.start [{ (default : RawConnectionState) with results := [default, default, broken] }] default 0
    let earlier : List Use := [.bindBatch (some [.list [.int 1]]), .batch]
    let later : List Use := [.set 1 (.int 2), .enqueue, .set 1 (.int 3), .enqueue, .set 3 (.int 9), .enqueue]
    let v := t.afterAll later (t.afterAll earlier w)
    ∃ e w', t.runBatch v = .error e w' ∧ t.RunsBatch [[.int 2], [.int 3]] v (.error e w') := by
  intro t broken w earlier later v
  have unrun : .batch ∉ later := by simp [later]
  have ran : ∃ e w', t.runBatch v = .error e w' := by
    dsimp only [v, t, later, earlier, w, broken]
    exact ⟨_, _, rfl⟩
  obtain ⟨e, w', ran⟩ := ran
  obtain ⟨_, runs, _⟩ := batch_queue_runs_in_order t earlier later (w := w) rfl (Or.inr ⟨[.bindBatch (some [.list [.int 1]])], rfl⟩)
  have filled := t.queued_after_all later (t.afterAll earlier w) unrun
  have queued : t.queued v = [[.int 2], [.int 3]] := by
    dsimp only [v, t, later, earlier, w, broken]
    rfl
  have start : t.queued (t.afterAll earlier w) = [] := t.queued_after_batch [.bindBatch (some [.list [.int 1]])] w
  rw [start, List.nil_append] at filled
  have batch := runs unrun
  rw [← filled, ran] at batch
  rw [← queued]
  exact ⟨e, w', ran, batch⟩

end SqlScope
