import SqlScope.Proofs.Pages

set_option autoImplicit false

namespace SqlScope

open SqlScope.Action

variable {α β : Type}

theorem discard_map (a : Action α) : discard a = (fun _ => ()) <$> a := rfl

theorem outcome_map (g : α → β) (a : Action α) : outcome (g <$> a) = Except.map g <$> outcome a := by
  funext w
  cases ran : a w with
  | ok v u =>
      rw [outcome_of_ok (map_of_ok ran), map_of_ok (outcome_of_ok ran)]
      rfl
  | error e u =>
      rw [outcome_of_error (map_of_error ran), map_of_ok (outcome_of_error ran)]
      rfl

theorem map_releasing (g : α → β) (close : Action Unit) (what : String) (kind : Kind) (body : Action α) :
    g <$> releasing close what kind body = releasing close what kind (g <$> body) := by
  rw [releasing, releasing, outcome_map, map_bind, bind_map_left]
  refine congrArg (outcome body >>= ·) (funext fun r => ?_)
  cases r with
  | ok v => simp only [map_bind, map_pure, Except.map]
  | error e => simp only [map_bind, Except.map]; rfl

theorem map_holding (g : α → β) (s : Session) (body : Connection → Action α) :
    g <$> s.holding body = s.holding fun c => g <$> body c := by
  rw [Session.holding, Session.holding, map_bind]
  refine congrArg (s.active? >>= ·) (funext fun found => ?_)
  cases found with
  | some c => rfl
  | none =>
      rw [map_bind]
      refine congrArg (s.acquire >>= ·) (funext fun c => ?_)
      rw [outcome_map, map_bind, bind_map_left]
      refine congrArg (outcome (body c) >>= ·) (funext fun r => ?_)
      cases r with
      | ok v => simp only [map_bind, map_pure, Except.map]
      | error e => simp only [map_bind, Except.map]; rfl

theorem map_with_results (g : α → β) (s : Session) (sql : String) (bind : Binder) (consumer : RowCursor → Action α) :
    g <$> s.withResults sql bind consumer = s.withResults sql bind fun r => g <$> consumer r := by
  rw [Session.withResults, Session.withResults, map_holding]
  refine congrArg s.holding (funext fun c => ?_)
  rw [Connection.withResults, Connection.withResults, Connection.withStatement, Connection.withStatement, map_bind]
  refine congrArg (Statement.openBound c sql bind >>= ·) (funext fun t => ?_)
  rw [map_releasing, map_bind]
  refine congrArg (releasing t.close "statement" .execution) (congrArg (t.query >>= ·) (funext fun r => ?_))
  exact map_releasing g r.close "result cursor" .execution (consumer r)

namespace RowCursor

variable (r : RowCursor) {w w' : World}

theorem map_visit (g : α → β) (f : Row → Action α) (fuel : Nat) (limit : Option Nat) :
    List.map g <$> r.visit f fuel limit = r.visit (fun row => g <$> f row) fuel limit := by
  induction fuel generalizing limit with
  | zero =>
      by_cases reached : limit = some 0
      · subst reached
        rfl
      · rcases limit with - | - | n
        · rfl
        · exact absurd rfl reached
        · rfl
  | succ fuel ih =>
      by_cases reached : limit = some 0
      · subst reached
        rfl
      · rw [r.visit_succ _ _ reached, r.visit_succ _ _ reached, map_bind]
        refine congrArg (r.advance >>= ·) (funext fun found => ?_)
        cases found with
        | none => rfl
        | some row =>
            simp only [map_bind, map_pure, bind_map_left, List.map_cons, ← ih]

theorem map_walk (g : α → β) (offset maxRows : Int) (f : Row → Action α) :
    List.map g <$> r.walk offset maxRows f = r.walk offset maxRows fun row => g <$> f row := by
  rw [walk, walk, map_bind]
  refine congrArg (r.moveTo offset >>= ·) (funext fun found => ?_)
  cases found with
  | false => rfl
  | true => simp only [if_true, map_bind, map_visit]

-- Without a limit a visit makes the steps of the plain loop, and is given up after as many rows.
theorem visit_all (f : Row → Action Unit) (fuel : Nat) : discard (r.visit f fuel none) = r.visitEach f fuel := by
  induction fuel with
  | zero => rfl
  | succ fuel ih =>
      rw [discard_map] at ih ⊢
      rw [r.visit_succ f fuel (Option.some_ne_none 0).symm, visitEach, map_bind]
      refine congrArg (r.advance >>= ·) (funext fun found => ?_)
      cases found with
      | none => rfl
      | some row => simp only [map_bind, bind_pure_comp, Functor.map_map, Option.map_none, ← ih]

theorem walk_all (f : Row → Action Unit) : discard (r.walk 0 0 f) = r.each f := by
  have unmoved : r.moveTo 0 = pure true := if_pos (by decide)
  rw [walk, unmoved, pure_bind, if_pos rfl, limitOf, if_pos (Int.le_refl 0), discard_map, map_bind, each]
  exact congrArg (r.patience >>= ·) (funext fun fuel => visit_all r f fuel)

theorem row_of_advance {row : Row} (advanced : r.advance w = .ok (some row) w') : r.row w' = .ok row w' := by
  have current : r.current w' = some row := by
    rcases r.advance_runs w with ⟨_, u, ran, _, _, there⟩ | ⟨_, _, u, failed, _⟩
    · rw [advanced] at ran
      injection ran with head same
      rw [same, there, head]
    · cases advanced.symm.trans failed
  have looked : r.state w' = .ok (w'.rowCursors.get r.index) w' := rfl
  have there : (w'.rowCursors.get r.index).row = some row := current
  rw [RowCursor.row, bind_of_ok looked, there]
  rfl

theorem first_only_advances (f : Row → Action α) :
    r.firstOnly f = r.advance >>= fun found => found.elim (pure none) fun row => some <$> f row := by
  funext w
  rw [firstOnly, next, bind_assoc]
  cases advanced : r.advance w with
  | error e u => rw [bind_of_error advanced, bind_of_error advanced]
  | ok found u =>
      rw [bind_of_ok advanced, bind_of_ok advanced, pure_bind]
      cases found with
      | none => rfl
      | some row => exact bind_of_ok (r.row_of_advance advanced)

theorem visit_one (f : Row → Action α) (fuel : Nat) : List.head? <$> r.visit f (fuel + 1) (some 1) = r.firstOnly f := by
  have spent : r.visit f fuel ((some 1).map (· - 1)) = pure [] := by cases fuel <;> rfl
  rw [r.visit_succ f fuel (by decide), spent, map_bind, first_only_advances]
  refine congrArg (r.advance >>= ·) (funext fun found => ?_)
  cases found with
  | none => rfl
  | some row => simp only [bind_pure_comp, map_pure, Functor.map_map, List.head?_cons, Option.elim_some]

theorem walk_one (f : Row → Action α) : List.head? <$> r.walk 0 1 f = r.firstOnly f := by
  have unmoved : r.moveTo 0 = pure true := if_pos (by decide)
  have single : limitOf 1 = some 1 := rfl
  rw [walk, unmoved, pure_bind, if_pos rfl, single, map_bind]
  funext w
  obtain ⟨n, patient, enough⟩ := patience_calm (r := r) w
  obtain ⟨fuel, rfl⟩ := Nat.exists_eq_add_of_lt enough
  rw [bind_of_ok patient, visit_one]

end RowCursor

section

variable (s : Session) (sql : String) (bind : Binder)

theorem scan_discards (offset maxRows : Int) (f : Row → Action Unit) :
    s.scan sql bind (fun _ => pure ()) offset maxRows f =
      s.withResults sql bind fun r => discard (r.walk offset maxRows f) := by
  rw [Session.scan, bind_pure_comp, Session.page_eq_with_results, map_with_results]
  refine congrArg (s.withResults sql bind) (funext fun r => ?_)
  rw [pure_bind, discard_map]

theorem first_record_heads :
    s.firstRecord sql bind =
      s.withResults sql bind fun r => List.head? <$> r.walk 0 1 fun row => Action.ofExcept row.toMap := by
  rw [Session.firstRecord, bind_pure_comp, Session.records, Session.page_eq_with_results, map_with_results]
  refine congrArg (s.withResults sql bind) (funext fun r => ?_)
  rw [pure_bind]

end

-- For all states of a session, all bindings of parameters and all drivers: the rows of a page are visited as they
-- are converted; a page without an offset and a limit is the plain loop over the rows; and the first record is what
-- the first row gives.
theorem ways_of_reading_agree (s : Session) (sql : String) (bind : Binder) :
    (∀ {α : Type} (offset maxRows : Int) (f : Row → Action α),
      s.scan sql bind (fun _ => pure ()) offset maxRows (fun row => discard (f row)) =
        discard (s.withResults sql bind fun r => r.convert f offset maxRows)) ∧
    (∀ f : Row → Action Unit,
      s.scan sql bind (fun _ => pure ()) 0 0 f = s.withResults sql bind fun r => r.each f) ∧
    s.firstRecord sql bind = s.withResults sql bind fun r => r.firstOnly fun row => Action.ofExcept row.toMap := by
  refine ⟨fun offset maxRows f => ?_, fun f => ?_, ?_⟩
  · rw [scan_discards, discard_map, map_with_results]
    refine congrArg (s.withResults sql bind) (funext fun r => ?_)
    calc discard (r.walk offset maxRows fun row => discard (f row))
      _ = discard (List.map (fun _ => ()) <$> r.walk offset maxRows f) := by rw [r.map_walk]; rfl
      _ = (fun _ => ()) <$> r.convert f offset maxRows := by rw [discard_map, Functor.map_map, RowCursor.convert]
  · rw [scan_discards]
    exact congrArg (s.withResults sql bind) (funext fun r => r.walk_all f)
  · rw [first_record_heads]
    exact congrArg (s.withResults sql bind) (funext fun r => r.walk_one _)

end SqlScope
