import SqlScope.Proofs.RollBack

set_option autoImplicit false

namespace SqlScope

open SqlScope.Action

variable {α β : Type}

-- What readings may raise. The history has no note of it.
structure Silent where
  attributes : Fault → Prop
  results : Fault → Prop
  ordinary : ∀ g, attributes g ∨ results g → g.kind.isOrdinary = true

def Schedule.Ordinary (s : Schedule) : Prop := ∀ g, some g ∈ s → g.kind.isOrdinary = true

theorem ordinary_tail {s : Schedule} (ordinary : s.Ordinary) : Schedule.Ordinary s.tail :=
  fun g member => ordinary g (List.mem_of_mem_tail member)

theorem ordinary_due {s : Schedule} (ordinary : s.Ordinary) {g : Fault} (due : s.due = some g) :
    g.kind.isOrdinary = true := by
  cases s with
  | nil => cases due
  | cons first rest =>
      have same : first = some g := due
      exact ordinary g (same ▸ List.mem_cons_self)

structure Result.Within (f : Silent) (r : Result) : Prop where
  fault : ∀ g, r.fault = some g → g.kind.isOrdinary = true
  description : ∀ g, r.description = .raises g → f.results g
  rowCount : ∀ g, r.rowCount = .raises g → f.results g
  scroll : ∀ g, r.scroll = .raises g → f.results g
  fetches : r.fetchFaults.Ordinary
  scrolls : r.scrollFaults.Ordinary

structure RawCursorState.Within (f : Silent) (t : RawCursorState) : Prop where
  result : t.result.Within f
  fetches : t.fetchFaults.Ordinary
  scrolls : t.scrollFaults.Ordinary

structure RawConnectionState.Within (f : Silent) (t : RawConnectionState) : Prop where
  opens : t.openFault = none
  cursorCalls : t.cursorFaults.Ordinary
  commits : t.commitFaults.Ordinary
  rollbacks : t.rollbackFaults.Ordinary
  closes : t.closeFaults.Ordinary
  assigns : t.assignFaults.Ordinary
  cursorCloses : t.closeCursorFaults.Ordinary
  attributes : ∀ name g, t.attributes.get? name = some (.raises g) → f.attributes g
  results : ∀ r ∈ t.results, r.Within f
  cursors : ∀ i, (t.cursors.get i).Within f

theorem default_result_within (f : Silent) : (default : Result).Within f where
  fault g raised := by cases raised
  description g raised := by cases raised
  rowCount g raised := by cases raised
  scroll g raised := by cases raised
  fetches g member := by cases member
  scrolls g member := by cases member

theorem opened_within {f : Silent} {r : Result} (within : r.Within f) : r.opened.Within f :=
  ⟨within, within.fetches, within.scrolls⟩

def RawCursor.Opened (q : RawCursor) (w : World) : Prop :=
  q.index < (w.connections.get q.connection.index).cursorsOpened

def RawCursor.record (q : RawCursor) (w : World) : RawCursorState :=
  (w.connections.get q.connection.index).cursors.get q.index

def RawCursorState.left (t : RawCursorState) : Nat := t.result.rows.length - t.position

def RawCursor.left (q : RawCursor) (w : World) : Nat := (q.record w).left

-- Every connection opens, and all faults to come are ordinary. The cursors that the work is on are open.
structure Ready (f : Silent) (x : RawCursor → Prop) (w : World) : Prop where
  connections : ∀ i, (w.connections.get i).Within f
  borrows : w.pool.borrowFaults.Ordinary
  returns : w.pool.giveBackFaults.Ordinary
  mine : ∀ q, x q → q.Opened w

-- Only the cursors that the work is on can be moved back.
structure Proceeds (f : Silent) (x : RawCursor → Prop) (w w' : World) : Prop where
  ready : Ready f x w'
  opened : ∀ q : RawCursor, q.Opened w → q.Opened w'
  grew : Grew (fun _ => True) w w'
  spared : ∀ q : RawCursor, q.Opened w → ¬ x q → q.left w' ≤ q.left w

inductive Refusal : Fault → Prop where
  | unbound (s : Statement) (gaps : List Nat) : Refusal (s.unbound gaps).fault
  | nested : Refusal (Kind.nestedTransaction.fault "A transaction is already active on this session")
  | savepoint (v : Value) : Refusal (Kind.value.fault ("Invalid savepoint name: " ++ v.literal))
  | unscrollable : Refusal (Kind.positioning.fault "Cursor does not support random access")
  | columns {description : Option (List ColumnEntry)} {g : Fault}
      (malformed : Column.ofDescription description = .error g) : Refusal g
  | labels {row : Row} {g : Fault} (unusable : row.toMap = .error g) : Refusal g

inductive Origin (f : Silent) (w w' : World) : Fault → Prop where
  | call {g : Fault} (noted : Shows (fun e => ∃ call, e = .call call (some g)) w w') : Origin f w w' g
  | reading {g : Fault} (raises : f.attributes g) : Origin f w w' g
  | result {g : Fault} (raises : f.results g) : Origin f w w' g
  | missing (text : String) : Origin f w w' (Kind.attribute.fault text)
  | refused {g : Fault} (refusal : Refusal g) : Origin f w w' g

def Failure.chain (e : Failure) : List Fault := e.fault :: e.causes

def Blamed (f : Silent) (w w' : World) (e : Failure) : Prop := ∃ g ∈ e.chain, Origin f w w' g

def Loose (e : Failure) : Prop := e.isOrdinary = true

abbrev Layered (e : Failure) : Prop := e.isLayer = true

def LetOut (f : Silent) (e : Failure) : Prop :=
  Layered e ∨ f.results e.fault ∨ Refusal e.fault

-- How an action goes from `w` on, judged since an earlier world `u`.
def Action.FailsOnlySince (a : Action α) (f : Silent) (x : RawCursor → Prop) (Q : Failure → Prop) (u w : World) : Prop :=
  a.Ends w (fun _ w' => Proceeds f x u w') fun e w' => Q e ∧ Proceeds f x u w' ∧ Blamed f u w' e

def FailsOnly (f : Silent) (x : RawCursor → Prop) (Q : Failure → Prop) (a : Action α) : Prop :=
  ∀ w, Ready f x w → a.FailsOnlySince f x Q w w

variable {f : Silent} {x y : RawCursor → Prop} {Q Q' : Failure → Prop} {u v w w' : World}

theorem proceeds_refl (ready : Ready f x w) : Proceeds f x w w where
  ready := ready
  opened _ opened := opened
  grew := grew_same rfl
  spared _ _ _ := Nat.le_refl _

theorem proceeds_trans (first : Proceeds f x u v) (second : Proceeds f x v w) : Proceeds f x u w where
  ready := second.ready
  opened q opened := second.opened q (first.opened q opened)
  grew := grew_trans first.grew second.grew
  spared q opened other :=
    Nat.le_trans (second.spared q (first.opened q opened) other) (first.spared q opened other)

theorem proceeds_still (ready : Ready f x w) (connections : ∀ i, w'.connections.get i = w.connections.get i)
    (borrows : w'.pool.borrowFaults.Ordinary) (returns : w'.pool.giveBackFaults.Ordinary)
    (grew : Grew (fun _ => True) w w') : Proceeds f x w w' where
  ready :=
    { connections := fun i => connections i ▸ ready.connections i
      borrows := borrows
      returns := returns
      mine := fun q member => by
        have opened := ready.mine q member
        rwa [RawCursor.Opened, ← connections] at opened }
  opened q opened := by rwa [RawCursor.Opened, connections]
  grew := grew
  spared q _ _ := Nat.le_of_eq (by simp only [RawCursor.left, RawCursor.record, connections])

theorem origin_before {g : Fault} (early : Grew (fun _ => True) u v) (origin : Origin f v w g) : Origin f u w g := by
  cases origin with
  | call noted => exact .call (shows_after early noted)
  | reading raises => exact .reading raises
  | result raises => exact .result raises
  | missing text => exact .missing text
  | refused refusal => exact .refused refusal

theorem origin_then {g : Fault} (origin : Origin f u v g) (later : Grew (fun _ => True) v w) : Origin f u w g := by
  cases origin with
  | call noted => exact .call (shows_then noted later)
  | reading raises => exact .reading raises
  | result raises => exact .result raises
  | missing text => exact .missing text
  | refused refusal => exact .refused refusal

theorem blamed_before {e : Failure} (early : Grew (fun _ => True) u v) (blamed : Blamed f v w e) : Blamed f u w e := by
  obtain ⟨g, member, origin⟩ := blamed
  exact ⟨g, member, origin_before early origin⟩

theorem blamed_then {e : Failure} (blamed : Blamed f u v e) (later : Grew (fun _ => True) v w) : Blamed f u w e := by
  obtain ⟨g, member, origin⟩ := blamed
  exact ⟨g, member, origin_then origin later⟩

theorem blamed_raised {g : Fault} (origin : Origin f u w g) : Blamed f u w g.raised :=
  ⟨g, List.mem_cons_self, origin⟩

theorem blamed_wrap {e : Failure} (blamed : Blamed f u w e) (kind : Kind) (message : String) :
    Blamed f u w (e.wrap kind message) := by
  obtain ⟨g, member, origin⟩ := blamed
  exact ⟨g, List.mem_cons_of_mem _ member, origin⟩

theorem columns_ordinary {entries : List ColumnEntry} {g : Fault} (malformed : Column.ofEntries entries = .error g) :
    g.kind.isOrdinary = true := by
  induction entries with
  | nil => cases malformed
  | cons entry rest ih =>
      cases entry with
      | short =>
          cases malformed
          rfl
      | full name typeCode =>
          cases later : Column.ofEntries rest with
          | ok columns =>
              simp only [Column.ofEntries, ColumnEntry.column, later] at malformed
              cases malformed
          | error g' =>
              simp only [Column.ofEntries, ColumnEntry.column, later] at malformed
              cases malformed
              exact ih later

theorem label_ordinary {v : Value} {g : Fault} (unusable : Label.ofValue v = .error g) : g.kind.isOrdinary = true := by
  cases v <;> cases unusable <;> rfl

theorem labels_ordinary {pairs : List (Column × Value)} {es : Entries Label Value} {g : Fault}
    (unusable : Row.enterAll es pairs = .error g) : g.kind.isOrdinary = true := by
  induction pairs generalizing es with
  | nil => cases unusable
  | cons pair rest ih =>
      obtain ⟨c, v⟩ := pair
      rw [Row.enterAll] at unusable
      split at unusable
      · exact ih unusable
      · rename_i refused
        cases unusable
        exact label_ordinary refused
      · rename_i refused _
        cases unusable
        exact label_ordinary refused

theorem refusal_ordinary {g : Fault} (refusal : Refusal g) : g.kind.isOrdinary = true := by
  cases refusal with
  | columns malformed => exact columns_ordinary malformed
  | labels unusable => exact labels_ordinary unusable
  | _ => rfl

theorem loose_of_layered {e : Failure} (layered : Layered e) : Loose e :=
  Kind.isOrdinary_of_isLayer layered

theorem loose_of_let_out {e : Failure} (out : LetOut f e) : Loose e := by
  rcases out with layered | raises | refusal
  · exact loose_of_layered layered
  · exact f.ordinary e.fault (Or.inr raises)
  · exact refusal_ordinary refusal

theorem fails_since_since {a : Action α} (so : Proceeds f x u w) (since : a.FailsOnlySince f x Q w w) : a.FailsOnlySince f x Q u w :=
  ends_mono since (fun _ _ onward => proceeds_trans so onward) fun _ _ failed =>
    ⟨failed.1, proceeds_trans so failed.2.1, blamed_before so.grew failed.2.2⟩

theorem fails_since_of_only {a : Action α} (fails : FailsOnly f x Q a) (so : Proceeds f x u w) : a.FailsOnlySince f x Q u w :=
  fails_since_since so (fails w so.ready)

theorem fails_since_congr {a b : Action α} (same : a w = b v) (since : b.FailsOnlySince f x Q u v) : a.FailsOnlySince f x Q u w := by
  unfold Action.FailsOnlySince Ends at since ⊢
  rw [same]
  exact since

theorem fails_since_bind {a : Action α} {g : α → Action β} (first : a.FailsOnlySince f x Q u w)
    (rest : ∀ v w', a w = .ok v w' → Proceeds f x u w' → (g v).FailsOnlySince f x Q u w') : (a >>= g).FailsOnlySince f x Q u w := by
  unfold Action.FailsOnlySince Ends at first
  cases ran : a w with
  | ok v w' =>
      rw [ran] at first
      exact fails_since_congr (bind_of_ok ran) (rest v w' ran first)
  | error e w' =>
      rw [ran] at first
      unfold Action.FailsOnlySince Ends
      rw [bind_of_error ran]
      exact first

theorem fails_since_throw {e : Failure} (so : Proceeds f x u w) (holds : Q e) (blamed : Blamed f u w e) :
    (throw e : Action α).FailsOnlySince f x Q u w :=
  ⟨holds, so, blamed⟩

theorem fails_only_mono {a : Action α} (implies : ∀ e, Q e → Q' e) (fails : FailsOnly f x Q a) : FailsOnly f x Q' a :=
  fun w ready => ends_mono (fails w ready) (fun _ _ onward => onward) fun e _ failed => ⟨implies e failed.1, failed.2⟩

theorem fails_only_let_out {a : Action α} (fails : FailsOnly f x Layered a) : FailsOnly f x (LetOut f) a :=
  fails_only_mono (fun _ layered => Or.inl layered) fails

theorem fails_only_pure (v : α) : FailsOnly f x Q (pure v : Action α) := fun _ ready => ends_pure (proceeds_refl ready)

theorem fails_only_bind {a : Action α} {g : α → Action β} (first : FailsOnly f x Q a) (rest : ∀ v, FailsOnly f x Q (g v)) :
    FailsOnly f x Q (a >>= g) :=
  fun w ready => fails_since_bind (first w ready) fun v _ _ so => fails_since_of_only (rest v) so

theorem fails_only_bind_gives {P : α → Prop} {a : Action α} {g : α → Action β} (first : FailsOnly f x Q a)
    (gives : Gives P a) (rest : ∀ v, P v → FailsOnly f x Q (g v)) : FailsOnly f x Q (a >>= g) :=
  fun w ready => fails_since_bind (first w ready) fun v w' ran so => fails_since_of_only (rest v (gives w v w' ran)) so

theorem fails_only_modify {h : World → World} (moves : ∀ w, Ready f x w → Proceeds f x w (h w)) :
    FailsOnly f x Q (modify h : Action Unit) :=
  fun w ready => moves w ready

theorem fails_only_aside {h : World → World} (connections : ∀ w, (h w).connections = w.connections)
    (pool : ∀ w, (h w).pool = w.pool) (history : ∀ w, (h w).history = w.history) :
    FailsOnly f x Q (modify h : Action Unit) :=
  fails_only_modify fun w ready => proceeds_still ready (fun _ => by rw [connections])
    (by rw [pool]; exact ready.borrows) (by rw [pool]; exact ready.returns) (grew_same (history w))

theorem fails_only_look (look : World → α) : FailsOnly f x Q (do return look (← get)) :=
  fun _ ready => proceeds_refl ready

theorem fails_only_note (e : Event) : FailsOnly f x Q (note e) :=
  fails_only_modify fun _ ready => proceeds_still ready (fun _ => rfl) ready.borrows ready.returns
    (grew_by rfl (by cases e <;> trivial))

theorem fails_only_fresh : FailsOnly f x Q fresh := fun _ ready =>
  proceeds_still ready (fun _ => rfl) ready.borrows ready.returns (grew_same rfl)

theorem fails_only_refused {g : Fault} (holds : Q g.raised) (refusal : Refusal g) :
    FailsOnly f x Q (throw g.raised : Action α) :=
  fun _ ready => fails_since_throw (proceeds_refl ready) holds (blamed_raised (.refused refusal))

theorem proceeds_narrow (fewer : ∀ q, y q → x q) (ready : Ready f x w) (so : Proceeds f y w w') :
    Proceeds f x w w' :=
  { so with
    ready := { so.ready with mine := fun q own => so.opened q (ready.mine q own) }
    spared := fun q opened other => so.spared q opened fun own => other (fewer q own) }

theorem fails_only_narrow {a : Action α} (fewer : ∀ q, y q → x q) (fails : FailsOnly f y Q a) : FailsOnly f x Q a := by
  intro w ready
  refine ends_mono (fails w { ready with mine := fun q own => ready.mine q (fewer q own) }) ?_ ?_
  · exact fun _ _ so => proceeds_narrow fewer ready so
  · exact fun _ _ failed => ⟨failed.1, proceeds_narrow fewer ready failed.2.1, failed.2.2⟩

def GivesNew (cursor : α → RawCursor) (a : Action α) : Prop :=
  ∀ w v w', a w = .ok v w' → ¬ (cursor v).Opened w ∧ (cursor v).Opened w'

theorem proceeds_new {q : RawCursor} (new : ¬ q.Opened u) (first : Proceeds f x u v)
    (second : Proceeds f (· = q) v w) : Proceeds f x u w where
  ready := { second.ready with mine := fun r own => second.opened r (first.ready.mine r own) }
  opened r opened := second.opened r (first.opened r opened)
  grew := grew_trans first.grew second.grew
  spared r opened other := by
    have older : r ≠ q := fun same => new (same ▸ opened)
    exact Nat.le_trans (second.spared r (first.opened r opened) older) (first.spared r opened other)

theorem fails_only_opening {cursor : α → RawCursor} {a : Action α} {g : α → Action β} (first : FailsOnly f x Q a)
    (gives : GivesNew cursor a) (rest : ∀ v, FailsOnly f (· = cursor v) Q (g v)) : FailsOnly f x Q (a >>= g) := by
  refine fun w ready => fails_since_bind (first w ready) fun v w₁ ran so => ?_
  obtain ⟨new, opened⟩ := gives w v w₁ ran
  have begins : Ready f (· = cursor v) w₁ := { so.ready with mine := fun q own => own ▸ opened }
  refine ends_mono (rest v w₁ begins) (fun _ _ onward => proceeds_new new so onward) fun _ _ failed => ?_
  exact ⟨failed.1, proceeds_new new so failed.2.1, blamed_before so.grew failed.2.2⟩

def ConvertsFailures (f : Silent) (x : RawCursor → Prop) (Q Q' : Failure → Prop) (h : Failure → Action α) : Prop :=
  ∀ e u w, Q e → Proceeds f x u w → Blamed f u w e → (h e).FailsOnlySince f x Q' u w

theorem converts_failures_quiet {h : Failure → Action α} (quiet : ∀ e, FailsOnly f x Q' (h e)) : ConvertsFailures f x Q Q' h :=
  fun e _ _ _ so _ => fails_since_of_only (quiet e) so

theorem converts_failures_throw (implies : ∀ e, Q e → Q' e) : ConvertsFailures f x Q Q' fun e => (throw e : Action α) :=
  fun e _ _ holds so blamed => fails_since_throw so (implies e holds) blamed

theorem converts_failures_then {b : Failure → Action β} {h : Failure → Action α} (first : ∀ e, FailsOnly f x Q' (b e))
    (rest : ConvertsFailures f x Q Q' h) : ConvertsFailures f x Q Q' fun e => b e >>= fun _ => h e := by
  intro e u w holds so blamed
  refine ends_bind (ends_mono (first e w so.ready) (fun _ w' onward => ?_) fun _ _ failed => ?_)
  · exact rest e u w' holds (proceeds_trans so onward) (blamed_then blamed onward.grew)
  · exact ⟨failed.1, proceeds_trans so failed.2.1, blamed_before so.grew failed.2.2⟩

theorem fails_only_outcome_bind {a : Action α} {g : Except Failure α → Action β} (first : FailsOnly f x Q a)
    (ok : ∀ v, FailsOnly f x Q' (g (.ok v))) (error : ConvertsFailures f x Q Q' fun e => g (.error e)) :
    FailsOnly f x Q' (outcome a >>= g) := by
  intro w ready
  refine ends_bind (ends_outcome (ends_mono (first w ready) (fun v w' so => ?_) fun e w' failed => ?_))
  · exact fails_since_of_only (ok v) so
  · exact error e w w' failed.1 failed.2.1 failed.2.2

theorem fails_only_on_ordinary {a : Action α} {h : Failure → Action α} (first : FailsOnly f x Q a)
    (ordinary : ∀ e, Q e → Loose e) (converts : ConvertsFailures f x Q Q' h) : FailsOnly f x Q' (onOrdinary a h) := by
  refine fails_only_outcome_bind first (fun v => fails_only_pure v) fun e u w holds so blamed => ?_
  have isOrdinary : e.isOrdinary = true := ordinary e holds
  dsimp only
  rw [if_pos isOrdinary]
  exact converts e u w holds so blamed

end SqlScope
