import SqlScope.Proofs.Stretches

set_option autoImplicit false

namespace SqlScope

open SqlScope.Action

variable {α β : Type}

-- What a step of the layer may do that opens no cursor and closes no statement.
structure Attends (x : RawCursor → Prop) (w w' : World) : Prop where
  grew : Grew (fun made => ∀ q, made.used? = some q → x q) w w'
  handles : w.handles ≤ w'.handles
  opened : ∀ i, (w'.connections.get i).cursorsOpened = (w.connections.get i).cursorsOpened
  marks : ∀ i, (w'.statements.get i).closed = (w.statements.get i).closed

def attending (x : RawCursor → Prop) : Law where
  inv _ := True
  rel := Attends x
  refl _ := ⟨grew_same rfl, Nat.le_refl _, fun _ => rfl, fun _ => rfl⟩
  trans _ _ _ first second :=
    ⟨grew_trans first.grew second.grew, Nat.le_trans first.handles second.handles,
      fun i => (second.opened i).trans (first.opened i), fun i => (second.marks i).trans (first.marks i)⟩

theorem attending_aside {x : RawCursor → Prop} {f : World → World} (history : ∀ w, (f w).history = w.history)
    (handles : ∀ w, (f w).handles = w.handles) (connections : ∀ w, (f w).connections = w.connections)
    (statements : ∀ w, (f w).statements = w.statements) : (attending x).Kept (modify f : Action Unit) :=
  kept_modify fun w _ => ⟨trivial, grew_same (history w), Nat.le_of_eq (handles w).symm,
    fun i => by rw [connections], fun i => by rw [statements]⟩

theorem attending_note {x : RawCursor → Prop} {e : Event} (meets : e.Meets fun made => ∀ q, made.used? = some q → x q) :
    (attending x).Kept (note e) :=
  kept_modify fun _ _ => ⟨trivial, grew_by rfl meets, Nat.le_refl _, fun _ => rfl, fun _ => rfl⟩

theorem attending_allows_scopes (x : RawCursor → Prop) : (attending x).AllowsScopes x where
  call made fault own := attending_note (e := .call made fault) own
  debug channel text := attending_note (e := .log channel .debug text) trivial
  warn channel text := attending_note (e := .log channel .warning text) trivial
  fresh := kept_get_bind fun _ _ => ⟨trivial, grew_same rfl, Nat.le_succ _, fun _ => rfl, fun _ => rfl⟩
  connection c f keeps := kept_modify fun w _ => by
    refine ⟨trivial, grew_same rfl, Nat.le_refl _, fun i => ?_, fun _ => rfl⟩
    by_cases same : c.index = i
    · subst same
      simp only [Table.get_put, if_true, keeps]
    · simp only [Table.get_put, if_neg same]
  statement t f keeps := kept_modify fun w _ => by
    refine ⟨trivial, grew_same rfl, Nat.le_refl _, fun _ => rfl, fun i => ?_⟩
    by_cases same : t.index = i
    · subst same
      simp only [Table.get_put, if_true, keeps]
    · simp only [Table.get_put, if_neg same]
  proxy _ _ := attending_aside (fun _ => rfl) (fun _ => rfl) (fun _ => rfl) fun _ => rfl
  pool _ := attending_aside (fun _ => rfl) (fun _ => rfl) (fun _ => rfl) fun _ => rfl
  rowCursor _ _ := attending_aside (fun _ => rfl) (fun _ => rfl) (fun _ => rfl) fun _ => rfl
  session _ _ := attending_aside (fun _ => rfl) (fun _ => rfl) (fun _ => rfl) fun _ => rfl
  opening := attending_aside (fun _ => rfl) (fun _ => rfl) (fun _ => rfl) fun _ => rfl
  savepoint := attending_aside (fun _ => rfl) (fun _ => rfl) (fun _ => rfl) fun _ => rfl

variable {x : RawCursor → Prop} {kept : Nat → Prop} {u v w w' : World} {q : RawCursor}

theorem civil_of_attends (attends : Attends x w w') : Civil kept w w' where
  grew := grew_mono (fun _ _ => trivial) attends.grew
  handles := attends.handles
  opened q opened := by rwa [RawCursor.Opened, attends.opened]
  tidy tidy i above := (attends.marks i).trans (tidy i (Nat.le_trans attends.handles above))
  marks i _ := attends.marks i

theorem idle_between {party : Party} (grew : Grew (fun made => ∀ q, made.used? = some q → x q) w w') (other : ¬ x q) :
    Idle q (between party w w') := by
  obtain ⟨added, history, meets⟩ := grew
  rw [between_of_grown history]
  intro e member _ used
  obtain ⟨event, there, rfl⟩ := List.mem_map.mp member
  have allowed := meets event (List.mem_reverse.mp there)
  cases event with
  | call made fault => exact other (allowed q used)
  | _ => cases used

theorem history_between {party : Party} {P : Call → Prop} (grew : Grew P w w') :
    w'.history = ((traceOf [⟨party, w, w'⟩]).map Prod.snd).reverse ++ w.history := by
  obtain ⟨added, history, _⟩ := grew
  rw [trace_of_single]
  exact between_history party history

theorem in_custody_single {party : Party} (civil : Civil kept w w')
    (still : party = .layer → ∀ q : RawCursor, q.Opened w' → q.Opened w)
    (idle : ∀ q : RawCursor, q.Opened w → ¬ x q → Idle q (between party w w')) :
    InCustody x kept w [⟨party, w, w'⟩] w' where
  civil := civil
  history := history_between civil.grew
  within s member := by
    cases List.mem_singleton.mp member
    exact ⟨fun _ opened => opened, fun _ opened => opened⟩
  rises q new opened := ⟨[], _, [], rfl, new, opened⟩
  taken i taken := by
    obtain ⟨s, member, _, _, below⟩ := taken
    cases List.mem_singleton.mp member
    exact below
  idle q opened other := by
    rw [trace_of_single]
    exact idle q opened other
  safe q earlier s later split isLayer opens := by
    obtain ⟨rfl, rfl, rfl⟩ := split_single split
    exact absurd (still isLayer q opens.2) opens.1

theorem in_custody_layer (attends : Attends x w w') : InCustody x kept w [⟨.layer, w, w'⟩] w' :=
  in_custody_single (civil_of_attends attends) (fun _ q opened => by rwa [RawCursor.Opened, attends.opened] at opened)
    fun _ _ other => idle_between attends.grew other

theorem in_custody_client (civil : Civil kept w w') : InCustody x kept w [⟨.client, w, w'⟩] w' := by
  refine in_custody_single civil (fun absurd => by cases absurd) fun q _ _ e member isLayer => ?_
  obtain ⟨_, _, rfl⟩ := List.mem_map.mp member
  cases isLayer

structure Starts (x : RawCursor → Prop) (kept : Nat → Prop) (w : World) : Prop where
  tidy : w.Tidy
  below : ∀ i, kept i → i < w.handles
  mine : ∀ q : RawCursor, x q → q.Opened w

theorem starts_after {l : List Stretch} (starts : Starts x kept u) (custody : InCustody x kept u l v) :
    Starts x (fun i => kept i ∨ Taken l i) v where
  tidy := custody.civil.tidy starts.tidy
  below i own := own.elim (fun early => Nat.lt_of_lt_of_le (starts.below i early) custody.civil.handles) (custody.taken i)
  mine q own := custody.civil.opened q (starts.mine q own)

namespace Plan

def KeepsCustody (x : RawCursor → Prop) (p : Plan α) : Prop :=
  ∀ kept w, Starts x kept w → Polite kept (p.stretches w) → InCustody x kept w (p.stretches w) (p.run.after w)

section

variable {p : Plan α} {k : α → Plan β} {frame : Frame}

theorem stretches_next_of_ok {a : α} (ran : p.run w = .ok a u) :
    (next p k).stretches w = p.stretches w ++ (k a).stretches u := by
  rw [stretches, ran]

theorem stretches_next_of_error {e : Failure} (failed : p.run w = .error e u) :
    (next p k).stretches w = p.stretches w := by
  rw [stretches, failed]
  exact List.append_nil _

theorem stretches_under_of_ok {a : α} (ran : p.run w = .ok a u) : (under frame p).stretches w = p.stretches w := by
  rw [stretches, ran]
  exact List.append_nil _

theorem stretches_under_of_error {e : Failure} (failed : p.run w = .error e u) :
    (under frame p).stretches w = p.stretches w ++ [⟨.layer, u, (frame.cleanUp e).after u⟩] := by
  rw [stretches, failed]

theorem after_next_of_ok {a : α} (ran : p.run w = .ok a u) : (next p k).run.after w = (k a).run.after u :=
  after_bind_of_ok ran

theorem after_next_of_error {e : Failure} (failed : p.run w = .error e u) : (next p k).run.after w = p.run.after w := by
  rw [after_of_error failed]
  exact after_of_error (bind_of_error failed)

theorem after_under_of_ok {a : α} (ran : p.run w = .ok a u) : (under frame p).run.after w = p.run.after w := by
  rw [after_of_ok ran, after_of_ok (run_under_of_ok ran)]

theorem after_under_of_error {e : Failure} (failed : p.run w = .error e u) :
    (under frame p).run.after w = (frame.cleanUp e).after u := by
  rw [Action.after, run, bind_of_ok (outcome_of_error failed)]
  cases cleaned : frame.cleanUp e u with
  | ok _ v =>
      rw [after_of_ok cleaned]
      exact congrArg worldOf (bind_of_ok cleaned)
  | error g v =>
      rw [after_of_error cleaned]
      exact congrArg worldOf (bind_of_error cleaned)

end

theorem keeps_custody_layer {a : Action α} (attends : (attending x).Kept a) : (layer a).KeepsCustody x :=
  fun _ w _ _ => in_custody_layer (attends w trivial).2

theorem keeps_custody_client (a : Action α) : (client a).KeepsCustody x := fun _ _ _ polite =>
  in_custody_client (civil_mono (fun _ own => Or.inl own) (polite [] _ [] rfl rfl))

theorem keeps_custody_next_of {p : Plan α} {k : α → Plan β} (first : p.KeepsCustody x)
    (rest : ∀ w a w', p.run w = .ok a w' → (k a).KeepsCustody x) : (next p k).KeepsCustody x := by
  intro kept w starts polite
  cases ran : p.run w with
  | ok a u =>
      rw [stretches_next_of_ok ran] at polite ⊢
      rw [after_next_of_ok ran]
      have early := first kept w starts (polite_left polite)
      rw [after_of_ok ran] at early
      have late := rest w a u ran _ u (starts_after starts early) (polite_right polite)
      exact in_custody_append starts.mine early (in_custody_mono (fun _ => Or.inl) late)
  | error e u =>
      rw [stretches_next_of_error ran] at polite ⊢
      rw [after_next_of_error ran]
      exact first kept w starts polite

theorem keeps_custody_next {p : Plan α} {k : α → Plan β} (first : p.KeepsCustody x)
    (rest : ∀ a, (k a).KeepsCustody x) : (next p k).KeepsCustody x :=
  keeps_custody_next_of first fun _ a _ _ => rest a

theorem keeps_custody_under {p : Plan α} {frame : Frame} (body : p.KeepsCustody x)
    (handler : ∀ e, (layer (frame.cleanUp e)).KeepsCustody x) :
    (under frame p).KeepsCustody x := by
  intro kept w starts polite
  cases ran : p.run w with
  | ok a u =>
      rw [stretches_under_of_ok ran] at polite ⊢
      rw [after_under_of_ok ran]
      exact body kept w starts polite
  | error e u =>
      rw [stretches_under_of_error ran] at polite ⊢
      rw [after_under_of_error ran]
      have early := body kept w starts (polite_left polite)
      rw [after_of_error ran] at early
      have late := handler e _ u (starts_after starts early) (polite_right polite)
      exact in_custody_append starts.mine early (in_custody_mono (fun _ => Or.inl) late)

theorem keeps_custody_done (a : α) : (done a).KeepsCustody x := keeps_custody_layer (kept_pure a)

theorem keeps_custody_fail (e : Failure) : (fail e : Plan α).KeepsCustody x := keeps_custody_layer (kept_throw e)

theorem keeps_custody_closed (x : RawCursor → Prop) : Stepwise.Closed Plan (KeepsCustody x) where
  done := keeps_custody_done
  fail := keeps_custody_fail
  next _ _ := keeps_custody_next

end Plan

structure Shuts (q : RawCursor) (kept : Nat → Prop) (w w' : World) : Prop where
  civil : Civil kept w w'
  opened : ∀ r : RawCursor, r.Opened w' → r.Opened w
  history : ∃ logs fault, w'.history = logs ++ .call (.closeCursor q) fault :: w.history ∧ ∀ e ∈ logs, e.used? = none

theorem attends_opened (attends : Attends x w w') (q : RawCursor) : q.Opened w' ↔ q.Opened w := by
  rw [RawCursor.Opened, RawCursor.Opened, attends.opened]

theorem shuts_then (shuts : Shuts q kept u v) (attends : Attends (fun _ => False) v w) : Shuts q kept u w where
  civil := civil_trans shuts.civil (civil_of_attends attends)
  opened r opened := shuts.opened r ((attends_opened attends r).mp opened)
  history := by
    obtain ⟨logs, fault, grown, quiet⟩ := shuts.history
    obtain ⟨added, history, meets⟩ := attends.grew
    refine ⟨added ++ logs, fault, by rw [history, grown, List.append_assoc], fun e member => ?_⟩
    rcases List.mem_append.mp member with late | early
    · have allowed := meets e late
      cases e with
      | call made fault =>
          cases used : made.used? with
          | none => exact used
          | some q => exact (allowed q used).elim
      | _ => rfl
    · exact quiet e early

theorem shuts_on_ordinary {a : Action α} {recover : Failure → Action α} (shuts : Shuts q kept w (a.after w))
    (handler : ∀ f, (attending fun _ => False).Kept (recover f)) : Shuts q kept w ((onOrdinary a recover).after w) := by
  cases ran : a w with
  | ok v u =>
      rw [after_of_ok ran] at shuts
      rw [after_of_ok (on_ordinary_of_ok ran)]
      exact shuts
  | error f u =>
      rw [after_of_error ran] at shuts
      rw [Action.after, on_ordinary_of_error ran]
      by_cases ordinary : f.isOrdinary
      · rw [if_pos ordinary]
        exact shuts_then shuts (handler f u trivial).2
      · rw [if_neg ordinary]
        exact shuts

theorem cursor_shuts (q : RawCursor) (kept : Nat → Prop) (w : World) : Shuts q kept w (q.close.after w) := by
  have attends := (q.close_allowed (attending_allows_scopes fun _ => False).toAllowsWork w trivial).2
  refine ⟨civil_of_attends attends, fun r opened => (attends_opened attends r).mp opened, ?_⟩
  let t := w.connections.get q.connection.index
  let w₁ := { w with connections := w.connections.put q.connection.index { t with closeCursorFaults := t.closeCursorFaults.tail } }
  have same : q.close w = attempt (.closeCursor q) t.closeCursorFaults.due w₁ := rfl
  rw [Action.after, same]
  cases t.closeCursorFaults.due with
  | none => exact ⟨[], none, rfl, fun _ absurd => by cases absurd⟩
  | some f => exact ⟨[], some f, rfl, fun _ absurd => by cases absurd⟩

namespace Closable

def raw : Closable → RawCursor
  | results r => r.cursor
  | statement t => t.cursor
  | cursor q => q

-- Closing it closes its cursor. Nobody else marks a statement that is given to the layer.
def Unclosed (kept given : Nat → Prop) (w : World) : Closable → Prop
  | results _ => False
  | statement t => (w.statements.get t.index).closed = false ∧ ¬ kept t.index ∧ given t.index
  | cursor _ => True

theorem shuts {c : Closable} {given : Nat → Prop} (unclosed : c.Unclosed kept given w)
    (below : ∀ i, given i → i < w.handles) : Shuts c.raw kept w (c.close.after w) := by
  cases c with
  | results r => exact unclosed.elim
  | cursor q => exact cursor_shuts q kept w
  | statement t =>
      obtain ⟨unmarked, other, own⟩ := unclosed
      let w₁ := { w with statements := w.statements.put t.index { w.statements.get t.index with closed := true } }
      have run : t.close w = t.cursor.close w₁ := by
        change (if (w.statements.get t.index).closed then pure () else _ : Action Unit) w = _
        rw [unmarked]
        rfl
      have elsewhere : ∀ i, t.index ≠ i → w₁.statements.get i = w.statements.get i :=
        fun i apart => (Table.get_put _ _ _ _).trans (if_neg apart)
      have marking : Civil kept w w₁ := by
        refine ⟨grew_same rfl, Nat.le_refl _, fun _ opened => opened, fun tidy i above => ?_, fun i mine => ?_⟩
        · have apart : t.index ≠ i := Nat.ne_of_lt (Nat.lt_of_lt_of_le (below t.index own) above)
          rw [elsewhere i apart]
          exact tidy i above
        · have apart : t.index ≠ i := fun same => other (same ▸ mine)
          rw [elsewhere i apart]
      have closing := cursor_shuts t.cursor kept w₁
      change Shuts t.cursor kept w (t.close.after w)
      rw [Action.after, run]
      exact ⟨civil_trans marking closing.civil, closing.opened, closing.history⟩

end Closable

theorem shuts_single (shuts : Shuts q kept w w') :
    InCustody x kept w [⟨.layer, w, w'⟩] w' ∧ ClosedLast q (traceOf [⟨.layer, w, w'⟩]) := by
  obtain ⟨logs, fault, grown, quiet⟩ := shuts.history
  have trace : between .layer w w' = (.layer, .call (.closeCursor q) fault) :: logs.reverse.map fun e => (.layer, e) := by
    have added : w'.history = (logs ++ [.call (.closeCursor q) fault]) ++ w.history := by
      rw [grown, List.append_assoc]
      rfl
    rw [between_of_grown added]
    simp
  have calm : ∀ r, Idle r (logs.reverse.map fun e => (Party.layer, e)) := by
    intro r e member _ used
    obtain ⟨event, there, rfl⟩ := List.mem_map.mp member
    rw [quiet event (List.mem_reverse.mp there)] at used
    cases used
  refine ⟨in_custody_single shuts.civil (fun _ => shuts.opened) fun r _ _ e member isLayer used => ?_, ?_⟩
  · rw [trace] at member
    rcases List.mem_cons.mp member with rfl | late
    · cases used
    · exact calm r e late isLayer used
  · rw [trace_of_single]
    exact ⟨[], fault, _, trace, calm q⟩

theorem closed_after_custody {given : Nat → Prop} {a b : List Stretch} (fewer : ∀ i, kept i → given i)
    (mine : ∀ r, x r → r.Opened u) (early : InCustody x given u a v)
    (late : InCustody x kept v b w ∧ ClosedLast q (traceOf b)) :
    InCustody x kept u (a ++ b) w ∧ ClosedLast q (traceOf (a ++ b)) := by
  refine ⟨in_custody_append mine (in_custody_mono fewer early) late.1, ?_⟩
  rw [trace_of_append]
  exact closed_last_after _ late.2

namespace Plan

def Releases (c : Closable) (p : Plan α) : Prop :=
  ∀ kept given w, Starts (· = c.raw) given w → (∀ i, kept i → given i) → c.Unclosed kept given w →
    Polite given (p.stretches w) →
    InCustody (· = c.raw) kept w (p.stretches w) (p.run.after w) ∧ ClosedLast c.raw (traceOf (p.stretches w))

theorem unclosed_after {c : Closable} {given : Nat → Prop} {l : List Stretch} (unclosed : c.Unclosed kept given u)
    (custody : InCustody x given u l v) : c.Unclosed kept (fun i => given i ∨ Taken l i) v := by
  cases c with
  | results r => exact unclosed
  | cursor q => trivial
  | statement t =>
      obtain ⟨unmarked, other, own⟩ := unclosed
      exact ⟨(custody.civil.marks t.index own).trans unmarked, other, Or.inl own⟩

-- The part under the handler either fails, and is followed by the handler's closing, or the rest closes.
theorem releases_guarded {c : Closable} {p : Plan α} {k : α → Plan β} (body : p.KeepsCustody (· = c.raw))
    (rest : ∀ a, (k a).Releases c) : (next (under (.closing c) p) k).Releases c := by
  intro kept given w starts fewer unclosed polite
  cases ran : p.run w with
  | ok a u =>
      have through : (under (.closing c) p).run w = .ok a u := run_under_of_ok ran
      rw [stretches_next_of_ok through, stretches_under_of_ok ran] at polite ⊢
      rw [after_next_of_ok through]
      have early := body given w starts (polite_left polite)
      rw [after_of_ok ran] at early
      have late := rest a kept _ u (starts_after starts early) (fun i own => Or.inl (fewer i own))
        (unclosed_after unclosed early) (polite_right polite)
      exact closed_after_custody fewer starts.mine early late
  | error e u =>
      have after : (under (.closing c) p).run.after w = ((Frame.closing c).cleanUp e).after u := after_under_of_error ran
      obtain ⟨f, w', raised⟩ : ∃ f w', (under (.closing c) p).run w = .error f w' := by
        obtain ⟨f, w', raises⟩ := unwind_raises [.closing c] e u
        exact ⟨f, w', (run_under_of_error ran).trans raises⟩
      rw [stretches_next_of_error raised, stretches_under_of_error ran] at polite ⊢
      rw [after_next_of_error raised, after]
      have early := body given w starts (polite_left polite)
      rw [after_of_error ran] at early
      have onward := starts_after starts early
      have closing := Closable.shuts (unclosed_after unclosed early) onward.below
      have handled : Shuts c.raw kept u (((Frame.closing c).cleanUp e).after u) :=
        shuts_on_ordinary closing fun _ => (attending_allows_scopes _).warn _ _
      exact closed_after_custody fewer starts.mine early (shuts_single handled)

theorem releases_closing (c : Closable) (kind : Kind) (message : String) (a : α) :
    (layer do
      wrapping kind message c.close
      pure a).Releases c := by
  intro kept given w starts _ unclosed _
  have closing : Shuts c.raw kept w ((wrapping kind message c.close).after w) :=
    shuts_on_ordinary (Closable.shuts unclosed starts.below) fun _ => kept_throw _
  have same : (do
      wrapping kind message c.close
      pure a : Action α).after w = (wrapping kind message c.close).after w := by
    cases ran : wrapping kind message c.close w with
    | ok _ u => rw [after_bind_of_ok ran, after_of_ok ran]; rfl
    | error e u => rw [after_of_error (bind_of_error ran), after_of_error ran]
  rw [← same] at closing
  exact shuts_single closing

theorem releases_releasing {c : Closable} {p : Plan α} (body : p.KeepsCustody (· = c.raw)) : (Stepwise.releasing c p).Releases c :=
  releases_guarded body fun a => releases_closing c _ _ a

end Plan

def Closable.Numbered (w w' : World) : Closable → Prop
  | results _ => False
  | statement t => w.handles ≤ t.index ∧ t.index < w'.handles
  | cursor _ => True

structure Hands (c : Closable) (w w' : World) : Prop where
  grew : Grew (fun made => ∀ q, made.used? = some q → False) w w'
  handles : w.handles ≤ w'.handles
  marks : ∀ i, (w'.statements.get i).closed = (w.statements.get i).closed
  new : ¬ c.raw.Opened w
  opened : ∀ q : RawCursor, q.Opened w' ↔ q.Opened w ∨ q = c.raw

theorem hands_then {c : Closable} (hands : Hands c u v) (attends : Attends (fun _ => False) v w) : Hands c u w where
  grew := grew_trans hands.grew attends.grew
  handles := Nat.le_trans hands.handles attends.handles
  marks i := (attends.marks i).trans (hands.marks i)
  new := hands.new
  opened q := (attends_opened attends q).trans (hands.opened q)

theorem civil_of_hands {c : Closable} (hands : Hands c w w') : Civil kept w w' where
  grew := grew_mono (fun _ _ => trivial) hands.grew
  handles := hands.handles
  opened q opened := (hands.opened q).mpr (Or.inl opened)
  tidy tidy i above := (hands.marks i).trans (tidy i (Nat.le_trans hands.handles above))
  marks i _ := hands.marks i

theorem hands_of_counted {q : RawCursor} (grew : Grew (fun made => ∀ q, made.used? = some q → False) w w')
    (handles : w.handles ≤ w'.handles) (marks : ∀ i, (w'.statements.get i).closed = (w.statements.get i).closed)
    (last : q.index = (w.connections.get q.connection.index).cursorsOpened)
    (counted : ∀ i, (w'.connections.get i).cursorsOpened =
      (w.connections.get i).cursorsOpened + if i = q.connection.index then 1 else 0) : Hands (.cursor q) w w' := by
  obtain ⟨⟨k⟩, n⟩ := q
  refine ⟨grew, handles, marks, fun opened => ?_, fun r => ?_⟩
  · exact Nat.ne_of_lt opened last
  · obtain ⟨⟨i⟩, m⟩ := r
    simp only [RawCursor.Opened, counted, Closable.raw, RawCursor.mk.injEq, RawConnection.mk.injEq]
    dsimp only at last
    by_cases same : i = k
    · subst same
      simp only [if_true, true_and]
      omega
    · simp only [same, if_false, false_and, or_false, Nat.add_zero]

theorem raw_open_cursor_ends (c : RawConnection) (w : World) :
    c.openCursor.Ends w (fun q w' => Hands (.cursor q) w w') fun _ w' => Attends (fun _ => False) w w' := by
  let t := w.connections.get c.index
  let w₁ := { w with connections := w.connections.put c.index { t with cursorFaults := t.cursorFaults.tail } }
  have calls : ∀ fault : Option Fault, (Event.call (.openCursor c) fault).Meets fun made => ∀ q, made.used? = some q → False :=
    fun _ _ used => by cases used
  have run : c.openCursor w = (attempt (.openCursor c) t.cursorFaults.due >>= fun _ =>
      c.update (fun s => { s with cursorsOpened := s.cursorsOpened + 1 }) >>= fun _ =>
        pure ⟨c, t.cursorsOpened⟩) w₁ := rfl
  rw [Ends, run]
  cases t.cursorFaults.due with
  | some g =>
      refine ⟨grew_by rfl (calls (some g)), Nat.le_refl _, fun i => ?_, fun _ => rfl⟩
      change ((w.connections.put c.index _).get i).cursorsOpened = _
      rw [Table.get_put]
      split
      · rename_i same
        rw [← same]
      · rfl
  | none =>
      refine hands_of_counted (grew_by rfl (calls none)) (Nat.le_refl _) (fun _ => rfl) rfl fun i => ?_
      dsimp only [w₁]
      simp only [Table.get_put]
      by_cases same : c.index = i
      · subst same
        simp only [if_true]
        rfl
      · simp only [if_neg same, if_neg (Ne.symm same), Nat.add_zero]

theorem open_cursor_ends (c : Connection) (w : World) :
    c.openCursor.Ends w (fun q w' => Hands (.cursor q) w w') fun _ w' => Attends (fun _ => False) w w' := by
  rcases connection_held c w with lent | ⟨v, value⟩
  · have run : c.openCursor w = c.raw.openCursor w := bind_of_ok lent
    rw [Ends, run]
    exact raw_open_cursor_ends c.raw w
  · have run : c.openCursor w = .error (Failure.lacking v.typeName "cursor") w := bind_of_ok value
    rw [Ends, run]
    exact (attending fun _ => False).refl w

theorem statement_on_ends (c : Connection) (sql : String) (w : World) :
    (Statement.on c sql).Ends w (fun t w' => Hands (.statement t) w w' ∧ (Closable.statement t).Numbered w w')
      fun _ w' => Attends (fun _ => False) w w' := by
  refine ends_bind (ends_on_ordinary (ends_mono (open_cursor_ends c w) (fun q v hands => ?_) fun f v attends => ?_))
  · have next : Attends (fun _ => False) v { v with handles := v.handles + 1 } :=
      ⟨grew_same rfl, Nat.le_succ _, fun _ => rfl, fun _ => rfl⟩
    have whole := hands_then hands next
    exact ⟨⟨whole.grew, whole.handles, whole.marks, whole.new, whole.opened⟩, hands.handles, Nat.lt_succ_self _⟩
  · by_cases ordinary : f.isOrdinary
    · rw [if_pos ordinary]
      exact attends
    · rw [if_neg ordinary]
      exact attends

theorem unclosed_of_numbered {c : Closable} (numbered : c.Numbered w w') (hands : Hands c w w') (tidy : w.Tidy)
    (below : ∀ i, kept i → i < w.handles) : c.Unclosed kept (fun i => kept i ∨ Taken [⟨.layer, w, w'⟩] i) w' := by
  cases c with
  | results r => exact numbered
  | cursor q => trivial
  | statement t =>
      refine ⟨(hands.marks t.index).trans (tidy t.index numbered.1), fun own => ?_, Or.inr ?_⟩
      · exact Nat.not_lt.mpr numbered.1 (below t.index own)
      · exact ⟨_, List.mem_singleton_self _, rfl, numbered⟩

theorem in_custody_opening {c : Closable} {l : List Stretch} (hands : Hands c u v) (late : InCustody (· = c.raw) kept v l w)
    (closed : ClosedLast c.raw (traceOf l)) : InCustody (fun _ => False) kept u (⟨.layer, u, v⟩ :: l) w where
  civil := civil_trans (civil_of_hands hands) late.civil
  history := by
    have early : v.history = ((traceOf [⟨.layer, u, v⟩]).map Prod.snd).reverse ++ u.history := history_between hands.grew
    rw [late.history, early, trace_of_single, trace_of_cons]
    simp only [List.map_append, List.reverse_append, List.append_assoc]
  within s member := by
    rcases List.mem_cons.mp member with rfl | later
    · exact ⟨fun _ opened => opened, fun q opened => late.civil.opened q opened⟩
    · obtain ⟨before, after⟩ := late.within s later
      exact ⟨fun q opened => before q ((hands.opened q).mpr (Or.inl opened)), after⟩
  rises q new opened := by
    by_cases meanwhile : q.Opened v
    · exact ⟨[], _, l, rfl, new, meanwhile⟩
    · obtain ⟨earlier, s, later, rfl, opens⟩ := late.rises q meanwhile opened
      exact ⟨_ :: earlier, s, later, rfl, opens⟩
  taken i taken := by
    rcases (taken_append (a := [⟨.layer, u, v⟩]) (b := l)).mp taken with early | later
    · obtain ⟨s, member, _, _, below⟩ := early
      cases List.mem_singleton.mp member
      exact Nat.lt_of_lt_of_le below late.civil.handles
    · exact late.taken i later
  idle q opened _ := by
    have other : q ≠ c.raw := fun same => hands.new (same ▸ opened)
    rw [trace_of_cons]
    exact idle_append (idle_between hands.grew id) (late.idle q ((hands.opened q).mpr (Or.inl opened)) other)
  safe q earlier s later split isLayer opens := by
    rcases split_append (a := [_]) split with ⟨rest, inFirst, rfl⟩ | ⟨front, rfl, inSecond⟩
    · obtain ⟨rfl, rfl, rfl⟩ := split_single inFirst
      rcases (hands.opened q).mp opens.2 with before | rfl
      · exact absurd before opens.1
      · exact closed_last_after _ closed
    · exact late.safe q front s later inSecond isLayer opens

namespace Plan

theorem keeps_custody_opening {a : Action α} {c : α → Closable} {k : α → Plan β}
    (opens : ∀ w, a.Ends w (fun v w' => Hands (c v) w w' ∧ (c v).Numbered w w') fun _ w' => Attends (fun _ => False) w w')
    (rest : ∀ v, (k v).Releases (c v)) : (next (layer a) k).KeepsCustody fun _ => False := by
  intro kept w starts polite
  cases ran : a w with
  | error e u =>
      have attends := ends_error (opens w) ran
      have first : (layer a).stretches w = [⟨.layer, w, u⟩] := by rw [layer, stretches, after_of_error ran]
      have last : (layer a).run.after w = u := after_of_error ran
      rw [stretches_next_of_error (p := layer a) ran, after_next_of_error (p := layer a) ran, first, last]
      exact in_custody_layer attends
  | ok v u =>
      obtain ⟨hands, numbered⟩ := ends_ok (opens w) ran
      have first : (layer a).stretches w = [⟨.layer, w, u⟩] := by rw [layer, stretches, after_of_ok ran]
      rw [stretches_next_of_ok (p := layer a) ran, first] at polite ⊢
      rw [after_next_of_ok (p := layer a) ran]
      have starting : Starts (· = (c v).raw) (fun i => kept i ∨ Taken [⟨.layer, w, u⟩] i) u := by
        have civil : Civil kept w u := civil_of_hands hands
        refine ⟨civil.tidy starts.tidy, fun i own => ?_, fun q same => ?_⟩
        · rcases own with early | ⟨s, member, _, _, below⟩
          · exact Nat.lt_of_lt_of_le (starts.below i early) hands.handles
          · cases List.mem_singleton.mp member
            exact below
        · exact (hands.opened q).mpr (Or.inr same)
      have unclosed := unclosed_of_numbered numbered hands starts.tidy starts.below
      obtain ⟨late, closed⟩ := rest v kept _ u starting (fun _ => Or.inl) unclosed (polite_right polite)
      exact in_custody_opening hands late closed

theorem keeps_custody_run_sql (c : Connection) (sql : String) : (runSql c sql).KeepsCustody fun _ => False := by
  refine keeps_custody_opening (c := Closable.cursor) (fun w => ?_) fun q => releases_releasing ?_
  · exact ends_mono (open_cursor_ends c w) (fun q v hands => ⟨hands, trivial⟩) fun _ _ => id
  · exact keeps_custody_layer (q.execute_allowed (attending_allows_scopes (· = q)).toAllowsWork rfl sql none)

theorem keeps_custody_with_statement (c : Connection) (sql : String) {bind : Statement → Plan Unit} {body : Statement → Plan α}
    (binds : ∀ t, (bind t).KeepsCustody (· = t.cursor)) (works : ∀ t, (body t).KeepsCustody (· = t.cursor)) :
    (Stepwise.withStatement c sql bind body).KeepsCustody fun _ => False :=
  keeps_custody_opening (c := Closable.statement) (statement_on_ends c sql) fun t =>
    releases_guarded (c := .statement t) (binds t) fun _ => releases_releasing (works t)

end Plan

end SqlScope
