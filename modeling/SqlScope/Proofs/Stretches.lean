import SqlScope.Proofs.Elementary
import SqlScope.Proofs.Plan
import SqlScope.Proofs.Trace

set_option autoImplicit false

namespace SqlScope

open SqlScope.Action

variable {α β : Type}

structure Stretch where
  party : Party
  before : World
  later : World

namespace Stretch

def trace (s : Stretch) : Trace := between s.party s.before s.later

def Opens (s : Stretch) (q : RawCursor) : Prop := ¬ q.Opened s.before ∧ q.Opened s.later

end Stretch

def traceOf (l : List Stretch) : Trace := l.flatMap Stretch.trace

def Plan.stretches {α : Type} : Plan α → World → List Stretch
  | step party a, w => [⟨party, w, a.after w⟩]
  | next x k, w =>
    x.stretches w ++ match x.run w with
      | .ok v u => (k v).stretches u
      | .error _ _ => []
  | under frame x, w =>
    x.stretches w ++ match x.run w with
      | .ok _ _ => []
      | .error e u => [⟨.layer, u, (frame.cleanUp e).after u⟩]

def World.Tidy (w : World) : Prop := ∀ i, w.handles ≤ i → (w.statements.get i).closed = false

-- What can be said of any part of a run: nothing is taken back, and certain statements keep their marks.
structure Civil (kept : Nat → Prop) (w w' : World) : Prop where
  grew : Grew (fun _ => True) w w'
  handles : w.handles ≤ w'.handles
  opened : ∀ q : RawCursor, q.Opened w → q.Opened w'
  tidy : w.Tidy → w'.Tidy
  marks : ∀ i, kept i → (w'.statements.get i).closed = (w.statements.get i).closed

def Taken (l : List Stretch) (i : Nat) : Prop :=
  ∃ s ∈ l, s.party = .layer ∧ s.before.handles ≤ i ∧ i < s.later.handles

-- The client closes none of the statements that the layer made before, in this run.
def Polite (kept : Nat → Prop) (l : List Stretch) : Prop :=
  ∀ earlier s later, l = earlier ++ s :: later → s.party = .client →
    Civil (fun i => kept i ∨ Taken earlier i) s.before s.later

def Event.used? : Event → Option RawCursor
  | .call made _ => made.used?
  | _ => none

def Idle (q : RawCursor) (t : Trace) : Prop := ∀ e ∈ t, e.1 = .layer → e.2.used? ≠ some q

-- The layer closes the cursor, and does not work on it from then on.
def ClosedLast (q : RawCursor) (t : Trace) : Prop :=
  ∃ first fault rest, t = first ++ (.layer, .call (.closeCursor q) fault) :: rest ∧ Idle q rest

def Safe (q : RawCursor) (l : List Stretch) : Prop :=
  ∀ earlier s later, l = earlier ++ s :: later → s.party = .layer → s.Opens q → ClosedLast q (traceOf (s :: later))

structure InCustody (x : RawCursor → Prop) (kept : Nat → Prop) (w : World) (l : List Stretch) (w' : World) : Prop where
  civil : Civil kept w w'
  history : w'.history = ((traceOf l).map Prod.snd).reverse ++ w.history
  within : ∀ s ∈ l, (∀ q : RawCursor, q.Opened w → q.Opened s.before) ∧ ∀ q : RawCursor, q.Opened s.later → q.Opened w'
  rises : ∀ q : RawCursor, ¬ q.Opened w → q.Opened w' → ∃ earlier s later, l = earlier ++ s :: later ∧ s.Opens q
  taken : ∀ i, Taken l i → i < w'.handles
  idle : ∀ q : RawCursor, q.Opened w → ¬ x q → Idle q (traceOf l)
  safe : ∀ q, Safe q l

variable {x : RawCursor → Prop} {kept kept' : Nat → Prop} {u v w w' : World} {l a b : List Stretch} {q : RawCursor}

theorem civil_trans (first : Civil kept u v) (second : Civil kept v w) : Civil kept u w where
  grew := grew_trans first.grew second.grew
  handles := Nat.le_trans first.handles second.handles
  opened q opened := second.opened q (first.opened q opened)
  tidy tidy := second.tidy (first.tidy tidy)
  marks i own := (second.marks i own).trans (first.marks i own)

theorem civil_mono (fewer : ∀ i, kept i → kept' i) (civil : Civil kept' w w') : Civil kept w w' :=
  { civil with marks := fun i own => civil.marks i (fewer i own) }

theorem trace_of_append (a b : List Stretch) : traceOf (a ++ b) = traceOf a ++ traceOf b := List.flatMap_append

theorem trace_of_cons (s : Stretch) (l : List Stretch) : traceOf (s :: l) = s.trace ++ traceOf l := List.flatMap_cons

theorem trace_of_single (s : Stretch) : traceOf [s] = s.trace := by
  rw [trace_of_cons]
  exact List.append_nil _

theorem idle_append {t t' : Trace} (first : Idle q t) (second : Idle q t') : Idle q (t ++ t') :=
  fun e member isLayer => (List.mem_append.mp member).elim (fun early => first e early isLayer) fun late =>
    second e late isLayer

theorem closed_last_before {t t' : Trace} (closed : ClosedLast q t) (idle : Idle q t') : ClosedLast q (t ++ t') := by
  obtain ⟨first, fault, rest, rfl, quiet⟩ := closed
  exact ⟨first, fault, rest ++ t', by rw [List.append_assoc, List.cons_append], idle_append quiet idle⟩

theorem closed_last_after (t : Trace) {t' : Trace} (closed : ClosedLast q t') : ClosedLast q (t ++ t') := by
  obtain ⟨first, fault, rest, rfl, quiet⟩ := closed
  exact ⟨t ++ first, fault, rest, by rw [List.append_assoc], quiet⟩

theorem taken_append {i : Nat} : Taken (a ++ b) i ↔ Taken a i ∨ Taken b i := by
  simp only [Taken, List.mem_append, or_and_right, exists_or]

theorem split_append {earlier later : List Stretch} {s : Stretch} (split : a ++ b = earlier ++ s :: later) :
    (∃ rest, a = earlier ++ s :: rest ∧ later = rest ++ b) ∨ ∃ front, earlier = a ++ front ∧ b = front ++ s :: later := by
  rcases List.append_eq_append_iff.mp split with ⟨front, same, same'⟩ | ⟨rest, same, same'⟩
  · exact Or.inr ⟨front, same, same'⟩
  · cases rest with
    | nil => exact Or.inr ⟨[], by simpa using same.symm, by simpa using same'.symm⟩
    | cons first rest =>
        cases same'
        exact Or.inl ⟨rest, same, rfl⟩

theorem split_single {s s' : Stretch} {earlier later : List Stretch} (split : [s] = earlier ++ s' :: later) :
    earlier = [] ∧ s' = s ∧ later = [] := by
  cases earlier with
  | nil =>
      cases split
      exact ⟨rfl, rfl, rfl⟩
  | cons first rest =>
      have lengths := congrArg List.length split
      simp at lengths

theorem polite_left (polite : Polite kept (a ++ b)) : Polite kept a := fun earlier s later split isClient =>
  polite earlier s (later ++ b) (by rw [split, List.append_assoc, List.cons_append]) isClient

theorem polite_right (polite : Polite kept (a ++ b)) : Polite (fun i => kept i ∨ Taken a i) b := by
  intro earlier s later split isClient
  have civil := polite (a ++ earlier) s later (by rw [split, List.append_assoc]) isClient
  refine civil_mono (fun i own => ?_) civil
  rw [taken_append]
  exact own.elim (fun first => first.elim Or.inl fun early => Or.inr (Or.inl early)) fun late => Or.inr (Or.inr late)

theorem in_custody_mono (fewer : ∀ i, kept i → kept' i) (custody : InCustody x kept' w l w') : InCustody x kept w l w' :=
  { custody with civil := civil_mono fewer custody.civil }

theorem in_custody_append (mine : ∀ q, x q → q.Opened u) (first : InCustody x kept u a v) (second : InCustody x kept v b w) :
    InCustody x kept u (a ++ b) w where
  civil := civil_trans first.civil second.civil
  history := by
    rw [second.history, first.history, trace_of_append]
    simp only [List.map_append, List.reverse_append, List.append_assoc]
  within s member := by
    rcases List.mem_append.mp member with early | late
    · obtain ⟨before, later⟩ := first.within s early
      exact ⟨before, fun q opened => second.civil.opened q (later q opened)⟩
    · obtain ⟨before, later⟩ := second.within s late
      exact ⟨fun q opened => before q (first.civil.opened q opened), later⟩
  rises q new opened := by
    by_cases meanwhile : q.Opened v
    · obtain ⟨earlier, s, later, rfl, opens⟩ := first.rises q new meanwhile
      exact ⟨earlier, s, later ++ b, by rw [List.append_assoc, List.cons_append], opens⟩
    · obtain ⟨earlier, s, later, rfl, opens⟩ := second.rises q meanwhile opened
      exact ⟨a ++ earlier, s, later, by rw [List.append_assoc], opens⟩
  taken i taken := by
    rcases taken_append.mp taken with early | late
    · exact Nat.lt_of_lt_of_le (first.taken i early) second.civil.handles
    · exact second.taken i late
  idle q opened other := by
    rw [trace_of_append]
    exact idle_append (first.idle q opened other) (second.idle q (first.civil.opened q opened) other)
  safe q earlier s later split isLayer opens := by
    rcases split_append split with ⟨rest, inFirst, rfl⟩ | ⟨front, rfl, inSecond⟩
    · have member : s ∈ a := by rw [inFirst]; simp
      obtain ⟨before, later⟩ := first.within s member
      have other : ¬ x q := fun own => opens.1 (before q (mine q own))
      rw [← List.cons_append, trace_of_append]
      exact closed_last_before (first.safe q earlier s rest inFirst isLayer opens) (second.idle q (later q opens.2) other)
    · exact second.safe q front s later inSecond isLayer opens

theorem in_custody_merge (custody : InCustody x kept w l w') (alone : ∀ s ∈ l, s.party = .layer) :
    InCustody x kept w [⟨.layer, w, w'⟩] w' := by
  have layers : ∀ e ∈ traceOf l, e.1 = Party.layer := by
    intro e member
    obtain ⟨s, there, inside⟩ := List.mem_flatMap.mp member
    obtain ⟨event, _, rfl⟩ := List.mem_map.mp inside
    exact alone s there
  have marked : ∀ t : Trace, (∀ e ∈ t, e.1 = Party.layer) → (t.map Prod.snd).map (fun e => (Party.layer, e)) = t := by
    intro t all
    induction t with
    | nil => rfl
    | cons e rest ih =>
        obtain ⟨party, event⟩ := e
        have isLayer := all _ List.mem_cons_self
        dsimp only at isLayer
        subst isLayer
        exact congrArg (_ :: ·) (ih fun e member => all e (List.mem_cons_of_mem _ member))
  have same : traceOf [⟨.layer, w, w'⟩] = traceOf l := by
    rw [trace_of_single, Stretch.trace, between_of_grown custody.history, List.reverse_reverse, marked _ layers]
  refine ⟨custody.civil, ?_, ?_, ?_, ?_, ?_, ?_⟩
  · rw [same]
    exact custody.history
  · intro s member
    cases List.mem_singleton.mp member
    exact ⟨fun _ opened => opened, fun _ opened => opened⟩
  · exact fun q new opened => ⟨[], _, [], rfl, new, opened⟩
  · rintro i ⟨s, member, _, _, below⟩
    cases List.mem_singleton.mp member
    exact below
  · rw [same]
    exact custody.idle
  · intro q earlier s later split isLayer opens
    obtain ⟨rfl, rfl, rfl⟩ := split_single split
    obtain ⟨front, s', rest, inside, opens'⟩ := custody.rises q opens.1 opens.2
    have there : s' ∈ l := by rw [inside]; simp
    rw [same, inside, trace_of_append]
    exact closed_last_after _ (custody.safe q front s' rest inside (alone s' there) opens')

end SqlScope
