import SqlScope.Proofs.Origin

set_option autoImplicit false

namespace SqlScope

open SqlScope.Action

variable {α β : Type} {f : Silent} {x : RawCursor → Prop} {Q Q' : Failure → Prop} {u w w' : World}

section

variable {a : Action α} {close : Action Unit}

theorem converts_failures_wrap (kind : Kind) (layer : kind.isLayer = true) (message : String) :
    ConvertsFailures f x Q Layered fun e => (throw (e.wrap kind message) : Action α) :=
  fun _ _ _ _ so blamed => fails_since_throw so layer (blamed_wrap blamed kind message)

theorem converts_failures_rewrap (kind : Kind) (layer : kind.isLayer = true) (message : String) :
    ConvertsFailures f x Q Layered fun e =>
      (throw (if e.isLayer then e else e.wrap kind message) : Action α) := by
  intro e u w holds so blamed
  dsimp only
  by_cases already : e.isLayer = true
  · rw [if_pos already]
    exact fails_since_throw so already blamed
  · rw [if_neg already]
    exact converts_failures_wrap kind layer message e u w holds so blamed

theorem fails_only_wrapping {kind : Kind} (layer : kind.isLayer = true) (message : String) (first : FailsOnly f x Loose a) :
    FailsOnly f x Layered (wrapping kind message a) :=
  fails_only_on_ordinary first (fun _ loose => loose) (converts_failures_rewrap kind layer message)

theorem fails_only_close_after_failure (what : String) (closes : FailsOnly f x Loose close) :
    FailsOnly f x Q (closeAfterFailure close what) :=
  fails_only_on_ordinary closes (fun _ loose => loose) (converts_failures_quiet fun _ => fails_only_note _)

theorem fails_only_releasing {kind : Kind} (layer : kind.isLayer = true) (what : String) (closes : FailsOnly f x Loose close)
    (admits : ∀ e, Layered e → Q e) (first : FailsOnly f x Q a) :
    FailsOnly f x Q (releasing close what kind a) := by
  refine fails_only_outcome_bind first (fun v => ?_) ?_
  · exact fails_only_bind (fails_only_mono admits (fails_only_wrapping layer _ closes)) fun _ => fails_only_pure v
  · exact converts_failures_then (fun _ => fails_only_close_after_failure what closes) (converts_failures_throw fun _ holds => holds)

theorem fails_only_ensuring (closes : FailsOnly f x Q close) (first : FailsOnly f x Q a) : FailsOnly f x Q (ensuring close a) := by
  refine fails_only_outcome_bind first (fun v => fails_only_bind closes fun _ => fails_only_pure v) ?_
  exact converts_failures_then (fun _ => closes) (converts_failures_throw fun _ holds => holds)

theorem fails_only_or_missing (fallback : α) (reads : FailsOnly f x Q a) : FailsOnly f x Q (orMissing a fallback) := by
  refine fails_only_outcome_bind reads (fun v => fails_only_pure v) fun e u w holds so blamed => ?_
  dsimp only
  by_cases missing : e.kind = .attribute
  · rw [if_pos missing]
    exact so
  · rw [if_neg missing]
    exact fails_since_throw so holds blamed

end

theorem fails_only_refuse (call : Call) {g : Fault} (ordinary : g.kind.isOrdinary = true) :
    FailsOnly f x Loose (refuse call g : Action α) := by
  intro w ready
  let w₁ := { w with history := .call call (some g) :: w.history }
  have so : Proceeds f x w w₁ :=
    proceeds_still ready (fun _ => rfl) ready.borrows ready.returns (grew_by rfl trivial)
  exact ⟨ordinary, so, blamed_raised (.call (shows_note ⟨call, rfl⟩ rfl))⟩

theorem fails_only_attempt (call : Call) {due : Option Fault} (ordinary : ∀ g, due = some g → g.kind.isOrdinary = true) :
    FailsOnly f x Loose (attempt call due) := by
  cases due with
  | none => exact fails_only_note _
  | some g => exact fails_only_refuse call (ordinary g rfl)

structure Turns (f : Silent) (x : RawCursor → Prop) (c : RawConnection) (t t' : RawConnectionState) : Prop where
  within : t'.Within f
  opened : t.cursorsOpened ≤ t'.cursorsOpened
  spared : ∀ i, i < t.cursorsOpened → ¬ x ⟨c, i⟩ → (t'.cursors.get i).left ≤ (t.cursors.get i).left

theorem turns_spending {c : RawConnection} {t t' : RawConnectionState} (within : t'.Within f)
    (opened : t'.cursorsOpened = t.cursorsOpened) (same : t'.cursors = t.cursors) : Turns f x c t t' where
  within := within
  opened := Nat.le_of_eq opened.symm
  spared i _ _ := Nat.le_of_eq (by rw [same])

namespace RawConnection

theorem proceeds_turned {c : RawConnection} {t : RawConnectionState} (ready : Ready f x w)
    (turns : Turns f x c (w.connections.get c.index) t)
    (turned : w'.connections = w.connections.put c.index t) (pool : w'.pool = w.pool)
    (grew : Grew (fun _ => True) w w') : Proceeds f x w w' := by
  have there : ∀ i, w'.connections.get i = if c.index = i then t else w.connections.get i := fun i => by
    rw [turned, Table.get_put]
  have opened : ∀ q : RawCursor, q.Opened w → q.Opened w' := fun q opened => by
    unfold RawCursor.Opened at opened ⊢
    rw [there]
    split
    · rename_i same
      rw [← same] at opened
      exact Nat.lt_of_lt_of_le opened turns.opened
    · exact opened
  refine ⟨⟨fun i => ?_, pool ▸ ready.borrows, pool ▸ ready.returns, fun q own => opened q (ready.mine q own)⟩,
    opened, grew, fun q isOpened other => ?_⟩
  · rw [there]
    split
    · exact turns.within
    · exact ready.connections i
  · obtain ⟨⟨k⟩, i⟩ := q
    unfold RawCursor.left RawCursor.record
    rw [there]
    split
    · rename_i same
      cases c
      cases same
      exact turns.spared i isOpened other
    · exact Nat.le_refl _

theorem fails_only_update {c : RawConnection} {h : RawConnectionState → RawConnectionState}
    (turns : ∀ t, t.Within f → Turns f x c t (h t)) : FailsOnly f x Q (c.update h) :=
  fails_only_modify fun _ ready =>
    proceeds_turned ready (turns _ (ready.connections c.index)) rfl rfl (grew_same rfl)

theorem fails_only_state {c : RawConnection} {g : RawConnectionState → Action α}
    (rest : ∀ t, t.Within f → FailsOnly f x Q (g t)) : FailsOnly f x Q (c.state >>= g) :=
  fun w ready => rest (w.connections.get c.index) (ready.connections c.index) w ready

theorem fails_only_open_cursor (c : RawConnection) : FailsOnly f x Loose c.openCursor :=
  fails_only_state fun _ within =>
    fails_only_bind
      (fails_only_update fun _ within =>
        turns_spending { within with cursorCalls := ordinary_tail within.cursorCalls } rfl rfl) fun _ =>
    fails_only_bind (fails_only_attempt _ fun _ => ordinary_due within.cursorCalls) fun _ =>
    fails_only_bind
      (fails_only_update fun _ within => ⟨{ within with }, Nat.le_succ _, fun _ _ _ => Nat.le_refl _⟩) fun _ =>
    fails_only_pure _

theorem fails_only_commit (c : RawConnection) : FailsOnly f x Loose c.commit :=
  fails_only_state fun _ within =>
    fails_only_bind
      (fails_only_update fun _ within => turns_spending { within with commits := ordinary_tail within.commits } rfl rfl)
      fun _ => fails_only_attempt _ fun _ => ordinary_due within.commits

theorem fails_only_rollback (c : RawConnection) : FailsOnly f x Loose c.rollback :=
  fails_only_state fun _ within =>
    fails_only_bind
      (fails_only_update fun _ within =>
        turns_spending { within with rollbacks := ordinary_tail within.rollbacks } rfl rfl)
      fun _ => fails_only_attempt _ fun _ => ordinary_due within.rollbacks

theorem attributes_given {t : RawConnectionState} (within : t.Within f) (name : String) (v : Value) :
    RawConnectionState.Within f { t with attributes := t.attributes.insert name (.gives v) } :=
  { within with
    attributes := fun other g raises => by
      rw [Entries.get?_insert] at raises
      split at raises
      · cases raises
      · exact within.attributes other g raises }

theorem mark_closed_turns {c : RawConnection} {t : RawConnectionState} (within : t.Within f) :
    Turns f x c t (markClosed t) := by
  unfold markClosed
  split
  · exact turns_spending (attributes_given within "closed" (.bool true)) rfl rfl
  · exact turns_spending within rfl rfl

theorem fails_only_close (c : RawConnection) : FailsOnly f x Loose c.close :=
  fails_only_state fun _ within =>
    fails_only_bind
      (fails_only_update fun _ within => turns_spending { within with closes := ordinary_tail within.closes } rfl rfl)
      fun _ =>
    fails_only_bind (fails_only_attempt _ fun _ => ordinary_due within.closes) fun _ =>
    fails_only_update fun _ => mark_closed_turns

theorem fails_only_assign (c : RawConnection) (name : String) (v : Value) :
    FailsOnly f x Loose (c.assign name v (.gives v)) :=
  fails_only_state fun _ within =>
    fails_only_bind
      (fails_only_update fun _ within => turns_spending { within with assigns := ordinary_tail within.assigns } rfl rfl)
      fun _ =>
    fails_only_bind (fails_only_attempt _ fun _ => ordinary_due within.assigns) fun _ =>
    fails_only_update fun _ within => turns_spending (attributes_given within name v) rfl rfl

theorem fails_only_read (c : RawConnection) (name : String) : FailsOnly f x Loose (c.read name) := by
  refine fails_only_state fun t within => ?_
  cases found : t.attributes.get? name with
  | none => exact fun w ready => fails_since_throw (proceeds_refl ready) rfl (blamed_raised (.missing name))
  | some r =>
      cases r with
      | gives v => exact fails_only_pure v
      | raises g =>
          have silent := within.attributes name g found
          exact fun w ready =>
            fails_since_throw (proceeds_refl ready) (f.ordinary g (Or.inl silent)) (blamed_raised (.reading silent))

theorem open_cursor_new {c : RawConnection} {q : RawCursor} (run : c.openCursor w = .ok q w') :
    ¬ q.Opened w ∧ q.Opened w' := by
  let t := w.connections.get c.index
  let w₁ := { w with connections := w.connections.put c.index { t with cursorFaults := t.cursorFaults.tail } }
  have same : c.openCursor w = (attempt (.openCursor c) t.cursorFaults.due >>= fun _ =>
      c.update (fun s => { s with cursorsOpened := s.cursorsOpened + 1 }) >>= fun _ =>
        pure ⟨c, t.cursorsOpened⟩) w₁ := rfl
  rw [same] at run
  cases due : t.cursorFaults.due with
  | some g =>
      rw [due] at run
      cases run
  | none =>
      rw [due] at run
      cases run
      refine ⟨Nat.lt_irrefl _, ?_⟩
      unfold RawCursor.Opened
      dsimp only [w₁]
      rw [Table.get_put, if_pos rfl, Table.get_put, if_pos rfl]
      exact Nat.lt_succ_self _

end RawConnection

namespace RawCursor

theorem turns_cursor {q : RawCursor} (own : x q) {t : RawConnectionState} {h : RawCursorState → RawCursorState}
    (within : t.Within f) (keeps : ∀ r, r.Within f → (h r).Within f) :
    Turns f x q.connection t { t with cursors := t.cursors.put q.index (h (t.cursors.get q.index)) } where
  within :=
    { within with
      cursors := fun i => by
        rw [Table.get_put]
        split
        · exact keeps _ (within.cursors q.index)
        · exact within.cursors i }
  opened := Nat.le_refl _
  spared i _ other := by
    rw [Table.get_put]
    split
    · rename_i same
      subst same
      exact (other own).elim
    · exact Nat.le_refl _

theorem fails_only_update {q : RawCursor} (own : x q) {h : RawCursorState → RawCursorState}
    (keeps : ∀ r, r.Within f → (h r).Within f) : FailsOnly f x Q (q.update h) :=
  RawConnection.fails_only_update fun _ within => turns_cursor own within keeps

theorem fails_only_state {q : RawCursor} {g : RawCursorState → Action α}
    (rest : ∀ r, r.Within f → FailsOnly f x Q (g r)) : FailsOnly f x Q (q.state >>= g) :=
  fun w ready => rest _ ((ready.connections q.connection.index).cursors q.index) w ready

theorem fails_only_execute {q : RawCursor} (own : x q) (sql : String) (parameters : Option (List Value)) :
    FailsOnly f x Loose (q.execute sql parameters) := by
  refine RawConnection.fails_only_state fun t within => ?_
  have next : (t.results.head?.getD default).Within f := by
    cases coming : t.results with
    | nil => exact default_result_within f
    | cons r rest => exact within.results r (coming ▸ List.mem_cons_self)
  refine fails_only_bind (RawConnection.fails_only_update fun _ within => turns_spending
    { within with results := fun r member => within.results r (List.mem_of_mem_tail member) } rfl rfl) fun _ => ?_
  refine fails_only_bind (fails_only_update own fun _ _ => ?_) fun _ => fails_only_attempt _ next.fault
  split
  · exact opened_within (default_result_within f)
  · exact opened_within next

theorem fails_only_reading {γ : Type} {reading : Reading γ} (silent : ∀ g, reading = .raises g → f.results g) :
    FailsOnly f x (LetOut f) reading.get := by
  cases reading with
  | gives v => exact fails_only_pure v
  | raises g =>
      have raises := silent g rfl
      exact fun w ready =>
        fails_since_throw (proceeds_refl ready) (Or.inr (Or.inl raises)) (blamed_raised (.result raises))

theorem fails_only_description (q : RawCursor) : FailsOnly f x (LetOut f) q.description :=
  fails_only_state fun _ within => fails_only_reading within.result.description

theorem fails_only_row_count (q : RawCursor) : FailsOnly f x (LetOut f) q.rowCount :=
  fails_only_state fun _ within => fails_only_reading within.result.rowCount

theorem fails_only_scroll_support (q : RawCursor) : FailsOnly f x (LetOut f) q.scrollSupport :=
  fails_only_state fun _ within => fails_only_reading within.result.scroll

theorem fails_only_fetch {q : RawCursor} (own : x q) : FailsOnly f x Loose q.fetch := by
  refine fails_only_state fun t within => ?_
  refine fails_only_bind (fails_only_update own fun r within =>
    { within with fetches := ordinary_tail within.fetches }) fun _ => ?_
  refine fails_only_bind (fails_only_attempt _ fun _ => ordinary_due within.fetches) fun _ => ?_
  split
  · exact fails_only_pure none
  · exact fails_only_bind (fails_only_update own fun r within => { within with }) fun _ => fails_only_pure _

theorem fails_only_scroll {q : RawCursor} (own : x q) (position : Int) : FailsOnly f x Loose (q.scroll position) := by
  refine fails_only_state fun t within => ?_
  refine fails_only_bind (fails_only_update own fun r within =>
    { within with scrolls := ordinary_tail within.scrolls }) fun _ => ?_
  refine fails_only_bind (fails_only_attempt _ fun g due => ?_) fun _ => fails_only_update own fun r within => { within with }
  cases scheduled : t.scrollFaults.due with
  | some g' =>
      rw [scheduled] at due
      cases due
      exact ordinary_due within.scrolls scheduled
  | none =>
      rw [scheduled] at due
      have out : destination t position = some g := due
      unfold destination at out
      split at out
      · cases out
        rfl
      · cases out

theorem fails_only_close (q : RawCursor) : FailsOnly f x Loose q.close :=
  RawConnection.fails_only_state fun _ within =>
    fails_only_bind
      (RawConnection.fails_only_update fun _ within =>
        turns_spending { within with cursorCloses := ordinary_tail within.cursorCloses } rfl rfl)
      fun _ => fails_only_attempt _ fun _ => ordinary_due within.cursorCloses

theorem record_updated (q : RawCursor) (h : RawCursorState → RawCursorState) (w : World) :
    q.record ((q.update h).after w) = h (q.record w) := by
  change (Table.get (Table.put w.connections q.connection.index _) q.connection.index).cursors.get q.index = _
  rw [Table.get_put, if_pos rfl, Table.get_put, if_pos rfl]
  rfl

theorem fetch_uses {q : RawCursor} {values : List Value} (run : q.fetch w = .ok (some values) w') :
    q.left w' < q.left w := by
  obtain ⟨t, w₀, state, run⟩ := ok_of_bind run
  obtain ⟨rfl, rfl⟩ : q.record w = t ∧ w = w₀ := by
    cases state
    exact ⟨rfl, rfl⟩
  obtain ⟨_, w₁, spending, run⟩ := ok_of_bind run
  obtain ⟨_, w₂, attempted, run⟩ := ok_of_bind run
  let t := q.record w
  have spent : q.record w₁ = { t with fetchFaults := t.fetchFaults.tail } := by
    rw [← after_of_ok spending, record_updated]
  have kept : q.record w₂ = q.record w₁ := by
    cases due : t.fetchFaults.due with
    | none =>
        rw [due] at attempted
        cases attempted
        rfl
    | some g =>
        rw [due] at attempted
        cases attempted
  cases row : t.result.rows[t.position]? with
  | none =>
      rw [row] at run
      cases run
  | some _ =>
      rw [row] at run
      obtain ⟨_, w₃, updated, ended⟩ := ok_of_bind run
      cases ended
      have inside : t.position < t.result.rows.length := (List.getElem?_eq_some_iff.mp row).1
      have moved : q.record w' = { t with fetchFaults := t.fetchFaults.tail, position := t.position + 1 } := by
        rw [← after_of_ok updated, record_updated, kept, spent]
      change (q.record w').left < t.left
      rw [moved]
      change t.result.rows.length - (t.position + 1) < t.result.rows.length - t.position
      omega

end RawCursor

end SqlScope
