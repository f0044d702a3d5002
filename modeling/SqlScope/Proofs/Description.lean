import Mathlib.Data.List.TakeWhile
import SqlScope.Proofs.Probe
import SqlScope.Proofs.Redaction

set_option autoImplicit false

namespace SqlScope

open SqlScope.Action

namespace ConnectionString

inductive Spelling where
  | bare (cs : List Char) (solid : Solid cs)
  | quoted (cs : List Char)

namespace Spelling

def escaped (a : Char) : List Char := if a = '\'' ∨ a = '\\' then ['\\', a] else [a]

def content : Spelling → List Char
  | bare cs _ => cs
  | quoted cs => cs

def written : Spelling → List Char
  | bare cs _ => cs
  | quoted cs => '\'' :: cs.flatMap escaped ++ ['\'']

def loose (p : Spelling) : List Char := hide false (p.written.dropWhile fun a => !Text.isBlank a)

end Spelling

structure Setting where
  name : List Char
  value : Spelling
  solid : Solid name
  named : '=' ∉ name

def Setting.written (s : Setting) : List Char := s.name ++ '=' :: s.value.written

structure Gap where
  spaces : List Char
  blank : Blank spaces
  some : spaces ≠ []

-- A connection string but for the value of its password.
structure Frame where
  lead : List Char
  before : List (Setting × Gap)
  after : List (Gap × Setting)
  trail : List Char
  lead_blank : Blank lead
  trail_blank : Blank trail

namespace Frame

def front (f : Frame) : List Char := f.lead ++ f.before.flatMap fun p => p.1.written ++ p.2.spaces

def back (f : Frame) : List Char := (f.after.flatMap fun p => p.1.spaces ++ p.2.written) ++ f.trail

def text (f : Frame) (password : Spelling) : String :=
  String.ofList (f.front ++ (keyword ++ password.written ++ f.back))

end Frame

variable {cs rest : List Char}

theorem fresh_of_blank {spaces : List Char} (blank : Blank spaces) (some : spaces ≠ []) (rest : List Char) :
    Fresh (spaces ++ rest) := by
  intro a first
  cases spaces with
  | nil => exact (some rfl).elim
  | cons b more =>
      cases first
      exact blank a List.mem_cons_self

theorem hide_gap (cs : List Char) (g : Gap) (rest : List Char) :
    hide false (cs ++ g.spaces ++ rest) = hide false (cs ++ g.spaces) ++ hide false rest := by
  have alone := hide_break cs (fresh_of_blank g.blank g.some []) false
  rw [List.append_nil, hide_all_spaces g.blank] at alone
  rw [List.append_assoc, hide_break cs (fresh_of_blank g.blank g.some rest) false, hide_spaces g.blank, alone,
    List.append_assoc]

theorem hide_front (f : Frame) (rest : List Char) : hide false (f.front ++ rest) = hide false f.front ++ hide false rest := by
  -- By induction on the settings before it: each ends at its gap, and no value is hidden past a gap.
  have before (l : List (Setting × Gap)) (more : List Char) :
      hide false ((l.flatMap fun p => p.1.written ++ p.2.spaces) ++ more) =
        hide false (l.flatMap fun p => p.1.written ++ p.2.spaces) ++ hide false more := by
    induction l generalizing more with
    | nil => rfl
    | cons p l ih => rw [List.flatMap_cons, hide_gap, List.append_assoc, hide_gap, ih, List.append_assoc]
  rw [Frame.front, List.append_assoc, hide_spaces f.lead_blank, hide_spaces f.lead_blank, before, List.append_assoc]

theorem back_fresh (f : Frame) : Fresh f.back := by
  intro a first
  rw [Frame.back] at first
  cases after : f.after with
  | nil =>
      rw [after] at first
      exact f.trail_blank a (List.mem_of_mem_head? first)
  | cons p l =>
      rw [after, List.flatMap_cons] at first
      simp only [List.append_assoc] at first
      exact fresh_of_blank p.1.blank p.1.some _ a first

theorem hide_loose (cs : List Char) : hide true cs = hide false (cs.dropWhile fun a => !Text.isBlank a) := by
  induction cs with
  | nil => rfl
  | cons a cs ih =>
      cases blank : Text.isBlank a with
      | true => rw [List.dropWhile_cons_of_neg (by simp [blank]), hide_blank blank, hide_blank blank]
      | false => rw [List.dropWhile_cons_of_pos (by simp [blank]), hide_within blank, ih]

theorem written_begins {p : Spelling} (given : p.content ≠ []) :
    ∃ a more, p.written = a :: more ∧ Text.isBlank a = false := by
  cases p with
  | bare cs solid =>
      cases cs with
      | nil => exact (given rfl).elim
      | cons a more => exact ⟨a, more, rfl, solid a List.mem_cons_self⟩
  | quoted cs => exact ⟨'\'', _, rfl, by decide⟩

theorem hide_text (f : Frame) {p : Spelling} (given : p.content ≠ []) :
    (hidePassword (f.text p)).toList = hide false f.front ++ (keyword ++ stars ++ p.loose) ++ hide false f.back := by
  obtain ⟨a, more, written, solid⟩ := written_begins given
  have begins : beginsSecret (keyword ++ p.written ++ f.back) = true :=
    (begins_secret_iff _).mpr ⟨a, more ++ f.back, by rw [written]; simp, solid⟩
  have keyed : keyword ++ p.written ++ f.back = 'p' :: ("assword=".toList ++ (p.written ++ f.back)) := by
    rw [List.append_assoc]
    rfl
  have rest_solid : Solid "assword=".toList := solid_of_all (by decide)
  rw [keyed] at begins
  rw [hidePassword, String.toList_ofList, Frame.text, String.toList_ofList, hide_front, keyed, hide_secret begins,
    hide_inside rest_solid, hide_break _ (back_fresh f), hide_loose]
  simp only [List.append_assoc, Spelling.loose]

theorem hidden_text_iff (f : Frame) {p p' : Spelling} (given : p.content ≠ []) (given' : p'.content ≠ []) :
    hidePassword (f.text p) = hidePassword (f.text p') ↔ p.loose = p'.loose := by
  rw [← String.toList_inj, hide_text f given, hide_text f given', List.append_left_inj, List.append_right_inj,
    List.append_right_inj]

theorem escaped_solid_iff (a : Char) : Solid (Spelling.escaped a) ↔ Text.isBlank a = false := by
  rw [Spelling.escaped]
  split
  · have slash : Text.isBlank '\\' = false := by decide
    simp [Solid, slash]
  · simp [Solid]

theorem written_solid_iff (p : Spelling) : Solid p.written ↔ Solid p.content := by
  cases p with
  | bare cs solid => exact Iff.rfl
  | quoted cs =>
      have quote : Text.isBlank '\'' = false := by decide
      have inner : Solid (cs.flatMap Spelling.escaped) ↔ Solid cs := by
        constructor
        · intro solid a member
          exact (escaped_solid_iff a).mp fun b inside => solid b (List.mem_flatMap.mpr ⟨a, member, inside⟩)
        · intro solid b inside
          obtain ⟨a, member, inside⟩ := List.mem_flatMap.mp inside
          exact (escaped_solid_iff a).mpr (solid a member) b inside
      rw [show Spelling.content (.quoted cs) = cs from rfl, ← inner]
      simp [Solid, Spelling.written, quote, or_imp, forall_and]

theorem loose_nil_iff (p : Spelling) : p.loose = [] ↔ Solid p.content := by
  have behind : hide false (p.written.dropWhile fun a => !Text.isBlank a) = [] ↔
      (p.written.dropWhile fun a => !Text.isBlank a) = [] := by
    cases dropped : p.written.dropWhile fun a => !Text.isBlank a with
    | nil => exact ⟨fun _ => rfl, fun _ => rfl⟩
    | cons a more =>
        have blank : Text.isBlank a = true := by
          have stopped := List.head?_dropWhile_not (fun a => !Text.isBlank a) p.written
          rw [dropped] at stopped
          simpa using stopped
        rw [hide_blank blank]
        simp
  rw [← written_solid_iff, Spelling.loose, behind, List.dropWhile_eq_nil_iff]
  simp [Solid]

end ConnectionString

variable {α β γ δ : Type} {c d : Connection} {u v : World}

-- What two actions end with, if both only look at their worlds: the same failure, or values that correspond.
def Tallies (R : α → β → Prop) (a : Action α) (b : Action β) (u v : World) : Prop :=
  (∃ e, a u = .error e u ∧ b v = .error e v) ∨ ∃ x y, a u = .ok x u ∧ b v = .ok y v ∧ R x y

section

variable {R : α → β → Prop} {S : γ → δ → Prop} {a : Action α} {b : Action β}

theorem tallies_pure {x : α} {y : β} (related : R x y) : Tallies R (pure x : Action α) (pure y : Action β) u v :=
  Or.inr ⟨x, y, rfl, rfl, related⟩

theorem tallies_throw (e : Failure) : Tallies R (throw e : Action α) (throw e : Action β) u v := Or.inl ⟨e, rfl, rfl⟩

theorem tallies_bind {f : α → Action γ} {g : β → Action δ} (first : Tallies R a b u v)
    (rest : ∀ x y, R x y → Tallies S (f x) (g y) u v) : Tallies S (a >>= f) (b >>= g) u v := by
  rcases first with ⟨e, here, there⟩ | ⟨x, y, here, there, related⟩
  · exact Or.inl ⟨e, bind_of_error here, bind_of_error there⟩
  · rw [Tallies, bind_of_ok here, bind_of_ok there]
    exact rest x y related

end

theorem tallies_same {a b : Action α} {f g : α → Action β} (first : Tallies Eq a b u v)
    (rest : ∀ x, Tallies Eq (f x) (g x) u v) : Tallies Eq (a >>= f) (b >>= g) u v :=
  tallies_bind first fun x _ same => same ▸ rest x

theorem tallies_or_missing {a b : Action α} (fallback : α) (read : Tallies Eq a b u v) :
    Tallies Eq (orMissing a fallback) (orMissing b fallback) u v := by
  have caught : Tallies Eq (outcome a) (outcome b) u v := by
    rcases read with ⟨e, here, there⟩ | ⟨x, y, here, there, related⟩
    · exact Or.inr ⟨_, _, outcome_of_error here, outcome_of_error there, rfl⟩
    · exact Or.inr ⟨_, _, outcome_of_ok here, outcome_of_ok there, congrArg Except.ok related⟩
  refine tallies_same caught fun r => ?_
  cases r with
  | ok x => exact tallies_pure rfl
  | error e =>
      dsimp only
      by_cases missing : e.kind = .attribute
      · rw [if_pos missing]
        exact tallies_pure rfl
      · rw [if_neg missing]
        exact tallies_throw e

inductive SameForm (u v : World) : Connection → Connection → Prop where
  | direct (k j : RawConnection) : SameForm u v (.direct k) (.direct j)
  | pooled (p q : Proxy) (same : u.proxies.get p.index = v.proxies.get q.index) : SameForm u v (.pooled p) (.pooled q)

structure Twins (c d : Connection) (u v : World) : Prop where
  form : SameForm u v c d
  home : (u.connections.get c.raw.index).home = (v.connections.get d.raw.index).home
  attributes : ∀ name, name ≠ "dsn" →
    (u.connections.get c.raw.index).attributes.get? name = (v.connections.get d.raw.index).attributes.get? name

inductive StandsAlike (k j : RawConnection) : Held → Held → Prop where
  | lent : StandsAlike k j (.lent k) (.lent j)
  | value (x : Value) : StandsAlike k j (.value x) (.value x)

section

variable {name : String}

theorem raw_read_tallies (twins : Twins c d u v) (other : name ≠ "dsn") :
    Tallies Eq (c.raw.read name) (d.raw.read name) u v := by
  have same := twins.attributes name other
  cases named : (u.connections.get c.raw.index).attributes.get? name with
  | none => exact Or.inl ⟨_, raw_read_of_missing named, raw_read_of_missing (same.symm.trans named)⟩
  | some r =>
      rw [Tallies, raw_read_of_named named, raw_read_of_named (same.symm.trans named)]
      cases r with
      | gives x => exact tallies_pure rfl
      | raises f => exact tallies_throw f.raised

theorem held_read_tallies (twins : Twins c d u v) (other : name ≠ "dsn") {h h' : Held}
    (alike : StandsAlike c.raw d.raw h h') : Tallies Eq (h.read name) (h'.read name) u v := by
  cases alike with
  | lent => exact raw_read_tallies twins other
  | value x => exact tallies_throw _

theorem held_tallies {p q : Proxy} (same : u.proxies.get p.index = v.proxies.get q.index) :
    Tallies (StandsAlike p.raw q.raw) p.held q.held u v := by
  refine Or.inr ⟨_, _, proxy_held_ok p u, proxy_held_ok q v, ?_⟩
  rw [ProxyState.held, ProxyState.held, same]
  cases (v.proxies.get q.index).attributes.get? "_connection" with
  | none => exact .lent
  | some x => exact .value x

theorem closed_tallies {p q : Proxy} (twins : Twins (.pooled p) (.pooled q) u v)
    (same : u.proxies.get p.index = v.proxies.get q.index) : Tallies Eq p.closed q.closed u v := by
  have state : Tallies Eq p.state q.state u v := Or.inr ⟨_, _, proxy_state_ok p u, proxy_state_ok q v, same⟩
  refine tallies_same state fun t => ?_
  dsimp only
  by_cases released : t.released.isTruthy
  · rw [if_pos released, if_pos released]
    exact tallies_pure rfl
  · rw [if_neg released, if_neg released]
    refine tallies_bind (held_tallies same) fun h h' alike => ?_
    exact tallies_same (tallies_or_missing _ (held_read_tallies twins (by decide) alike)) fun _ => tallies_pure rfl

theorem read_tallies (twins : Twins c d u v) (other : name ≠ "dsn") (plain : name ≠ "raw_connection" ∧ name ≠ "_connection") :
    Tallies Eq (c.read name) (d.read name) u v := by
  cases twins.form with
  | direct k j => exact raw_read_tallies twins other
  | pooled p q same =>
      change Tallies Eq (p.read name) (q.read name) u v
      have state : Tallies Eq p.state q.state u v := Or.inr ⟨_, _, proxy_state_ok p u, proxy_state_ok q v, same⟩
      unfold Proxy.read
      by_cases closed : name = "closed"
      · rw [if_pos closed, if_pos closed]
        exact closed_tallies twins same
      rw [if_neg closed, if_neg closed, if_neg (not_or.mpr plain), if_neg (not_or.mpr plain)]
      by_cases released : name = "_released"
      · rw [if_pos released, if_pos released]
        exact tallies_same state fun _ => tallies_pure rfl
      rw [if_neg released, if_neg released]
      refine tallies_same state fun t => ?_
      -- What the proxy does not hold itself is read from what it stands for.
      cases t.attributes.get? name with
      | some x => exact tallies_pure rfl
      | none => exact tallies_bind (held_tallies same) fun _ _ alike => held_read_tallies twins other alike

theorem read_or_tallies (twins : Twins c d u v) (other : name ≠ "dsn")
    (plain : name ≠ "raw_connection" ∧ name ≠ "_connection") (fallback : Value) :
    Tallies Eq (c.readOr name fallback) (d.readOr name fallback) u v :=
  tallies_or_missing fallback (read_tallies twins other plain)

theorem home_tallies (twins : Twins c d u v) :
    Tallies (fun t t' => t.home = t'.home) c.raw.state d.raw.state u v :=
  Or.inr ⟨_, _, raw_state_ok c.raw u, raw_state_ok d.raw v, twins.home⟩

theorem driver_tallies (twins : Twins c d u v) : Tallies Eq c.driver d.driver u v := by
  cases twins.form with
  | direct k j =>
      have read : Tallies Eq (some <$> k.read "raw_connection") (some <$> j.read "raw_connection") u v :=
        tallies_same (raw_read_tallies twins (by decide)) fun x => tallies_pure rfl
      refine tallies_same (tallies_or_missing none read) fun x => ?_
      cases x with
      | some x => exact tallies_pure rfl
      | none => exact tallies_bind (home_tallies twins) fun t t' home => tallies_pure (congrArg Connection.topLevel home)
  | pooled p q same =>
      refine tallies_bind (held_tallies same) fun h h' alike => ?_
      cases alike with
      | lent => exact tallies_bind (home_tallies twins) fun t t' home => tallies_pure (congrArg Connection.topLevel home)
      | value x => exact tallies_pure rfl

theorem present_tallies (twins : Twins c d u v) {names : List String}
    (plain : ∀ name ∈ names, name ≠ "dsn" ∧ name ≠ "raw_connection" ∧ name ≠ "_connection") :
    Tallies Eq (c.present names) (d.present names) u v := by
  induction names with
  | nil => exact tallies_pure rfl
  | cons name rest ih =>
      obtain ⟨other, plain'⟩ := plain name List.mem_cons_self
      refine tallies_same (read_or_tallies twins other plain' .null) fun x => ?_
      exact tallies_same (ih fun name later => plain name (List.mem_cons_of_mem _ later)) fun _ => tallies_pure rfl

theorem dsn_shown {s : String} (shows : c.read "dsn" u = .ok (.text s) u) :
    c.dsn u = .ok [("dsn", .text (ConnectionString.hidePassword s))] u := by
  have read : c.readOr "dsn" .null u = .ok (.text s) u := or_missing_of_ok shows .null
  exact bind_of_ok read

theorem report_tallies (twins : Twins c d u v) {s s' : String} (shows : c.read "dsn" u = .ok (.text s) u)
    (shows' : d.read "dsn" v = .ok (.text s') v) :
    Tallies (fun info info' => info = info' ↔ ConnectionString.hidePassword s = ConnectionString.hidePassword s')
      c.report d.report u v := by
  refine tallies_bind (driver_tallies twins) fun driver _ same => ?_
  subst same
  refine tallies_bind (read_or_tallies twins (by decide) (by decide) .null) fun autocommit _ same => ?_
  subst same
  refine tallies_bind (read_or_tallies twins (by decide) (by decide) (.bool false)) fun closed _ same => ?_
  subst same
  have dsn : Tallies (fun x y => x = [("dsn", Value.text (ConnectionString.hidePassword s))] ∧
      y = [("dsn", Value.text (ConnectionString.hidePassword s'))]) c.dsn d.dsn u v :=
    Or.inr ⟨_, _, dsn_shown shows, dsn_shown shows', rfl, rfl⟩
  refine tallies_bind dsn fun x y hidden => ?_
  obtain ⟨rfl, rfl⟩ := hidden
  refine tallies_bind (present_tallies twins (by decide)) fun more _ same => ?_
  subst same
  refine tallies_pure ?_
  simp

end

section

open ConnectionString

-- A password without white space does not show. One that is quoted and holds some shows from there on, but for what
-- is hidden in it as another password.
theorem description_same_iff (twins : Twins c d u v) (f : Frame) {p p' : Spelling} (given : p.content ≠ [])
    (given' : p'.content ≠ []) (shows : c.read "dsn" u = .ok (.text (f.text p)) u)
    (shows' : d.read "dsn" v = .ok (.text (f.text p')) v) :
    Tallies (fun info info' => (info = info' ↔ p.loose = p'.loose) ∧
      (Solid p.content → (info = info' ↔ Solid p'.content))) c.report d.report u v := by
  rcases report_tallies twins shows shows' with failed | ⟨info, info', here, there, same⟩
  · exact Or.inl failed
  · rw [hidden_text_iff f given given'] at same
    refine Or.inr ⟨info, info', here, there, same, fun solid => ?_⟩
    rw [same, (loose_nil_iff p).mpr solid, eq_comm, loose_nil_iff]

theorem quoted_password_shows :
    let gap : Gap := ⟨[' '], fun a only => by rw [List.mem_singleton.mp only]; decide, List.cons_ne_nil _ _⟩
    let f : Frame := {
      lead := []
      before := [(⟨"user".toList, .bare "sa".toList (solid_of_all (by decide)), solid_of_all (by decide), by decide⟩, gap)]
      after := [(gap, ⟨"host".toList, .bare "db".toList (solid_of_all (by decide)), solid_of_all (by decide), by decide⟩)]
      trail := []
      lead_blank := fun _ absurd => nomatch absurd
      trail_blank := fun _ absurd => nomatch absurd }
    let p := Spelling.quoted "a b".toList
    let p' := Spelling.quoted "a c".toList
    let told (s : String) : RawConnectionState :=
      { (default : RawConnectionState) with attributes := [("dsn", .gives (.text s))] }
    let w := World.start [told (f.text p), told (f.text p')] default 0
    let c := Connection.direct ⟨0⟩
    let d := Connection.direct ⟨1⟩
    f.text p = "user=sa password='a b' host=db" ∧ f.text p' = "user=sa password='a c' host=db" ∧ Twins c d w w ∧
      ∃ info info', c.report w = .ok info w ∧ d.report w = .ok info' w ∧ info ≠ info' := by
  intro gap f p p' told w c d
  have twins : Twins c d w w := by
    have home (s : String) : (told s).home = (default : RawConnectionState).home := rfl
    refine ⟨.direct ⟨0⟩ ⟨1⟩, (home (f.text p)).trans (home (f.text p')).symm, fun name other => ?_⟩
    have missing (s : String) : (told s).attributes.get? name = none := by simp [told, Entries.get?, other.symm]
    exact (missing (f.text p)).trans (missing (f.text p')).symm
  refine ⟨rfl, rfl, twins, ?_⟩
  have told_of : ∃ info, c.report w = .ok info w := ⟨_, rfl⟩
  have given : p.content ≠ [] := List.cons_ne_nil _ _
  have given' : p'.content ≠ [] := List.cons_ne_nil _ _
  rcases description_same_iff twins f given given' rfl rfl with
    ⟨e, failed, _⟩ | ⟨info, info', here, there, same, _⟩
  · obtain ⟨info, ran⟩ := told_of
    cases ran.symm.trans failed
  · refine ⟨info, info', here, there, fun equal => ?_⟩
    have differ : p.loose ≠ p'.loose := by decide
    exact differ (same.mp equal)

end

end SqlScope
