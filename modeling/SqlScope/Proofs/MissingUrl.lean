import SqlScope.Proofs.Literals
import SqlScope.Source

set_option autoImplicit false

namespace SqlScope

namespace Entries

variable {κ ν : Type} [BEq κ] {es es' : Entries κ ν}

def Distinct (es : Entries κ ν) : Prop := es.keys.Pairwise fun i j => (i == j) = false

structure SameBut (R : κ → Prop) (es es' : Entries κ ν) : Prop where
  keys : es.keys = es'.keys
  distinct : es.Distinct
  values : ∀ k, ¬ R k → es.get? k = es'.get? k

theorem get_is_some (es : Entries κ ν) (k : κ) : (es.get? k).isSome = es.keys.any (· == k) := by
  induction es with
  | nil => rfl
  | cons p rest ih =>
      obtain ⟨j, v⟩ := p
      rw [get?, keys, List.map_cons, List.any_cons, ← keys, ← ih]
      cases j == k <;> rfl

theorem get_of_missing {k : κ} (missing : ∀ j ∈ es.keys, (j == k) = false) : es.get? k = none := by
  rw [← Option.isNone_iff_eq_none, ← Option.not_isSome, get_is_some]
  simpa using missing

theorem eq_of_get [EquivBEq κ] (same : es.keys = es'.keys) (distinct : es.Distinct)
    (values : ∀ k, es.get? k = es'.get? k) : es = es' := by
  induction es generalizing es' with
  | nil => exact (List.map_eq_nil_iff.mp same.symm).symm
  | cons p rest ih =>
      obtain ⟨k, v⟩ := p
      cases es' with
      | nil => cases same
      | cons p' rest' =>
          obtain ⟨k', v'⟩ := p'
          obtain ⟨rfl, others⟩ := List.cons.inj same
          obtain ⟨apart, distinct⟩ := List.pairwise_cons.mp distinct
          have first : some v = some v' := by simpa [get?] using values k
          have later : rest = rest' := by
            refine ih others distinct fun j => ?_
            cases named : k == j with
            | false => simpa [get?, named] using values j
            | true =>
                -- The key is given once, so `j`, another name of it, finds nothing in what follows.
                have missing : ∀ i ∈ keys rest, (i == j) = false := fun i member => by
                  rw [← BEq.congr_right named, BEq.comm]
                  exact apart i member
                have missing' : ∀ i ∈ keys rest', (i == j) = false := by
                  rw [keys, ← others]
                  exact missing
                rw [get_of_missing missing, get_of_missing missing']
          rw [Option.some.inj first, later]

theorem same_iff [EquivBEq κ] {k : κ} (alike : SameBut (· = k) es es') : es = es' ↔ es.get? k = es'.get? k := by
  constructor
  · rintro rfl
    rfl
  · intro value
    refine eq_of_get alike.keys alike.distinct fun j => ?_
    by_cases here : j = k
    · rw [here, value]
    · exact alike.values j here

end Entries

namespace Settings

variable {s t : Settings}

inductive OptionsAlike : Option Value → Option Value → Prop where
  | same (v : Option Value) : OptionsAlike v v
  | tables {es es' : Entries String Value} (alike : es.SameBut (· = "password") es') :
      OptionsAlike (some (.table es)) (some (.table es'))

structure EqualButPasswords (s t : Settings) : Prop where
  others : s.SameBut (fun k => k = .text "password" ∨ k = .text "options") t
  options : OptionsAlike (s.get? (.text "options")) (t.get? (.text "options"))

def passwordAmong : Option Value → Option Value
  | some (.table es) => Entries.get? es "password"
  | _ => none

def optionsPassword (s : Settings) : Option Value := passwordAmong (s.get? (.text "options"))

theorem hidden_keys (s : Settings) : s.hidden.keys = s.keys := by
  rw [hidden, Entries.keys, Entries.keys, List.map_map]
  rfl

theorem hidden_get (s : Settings) (k : Label) :
    s.hidden.get? k = if k == .text "password" then (s.get? k).map fun _ => .text "***" else s.get? k := by
  induction s with
  | nil => simp [hidden, Entries.get?]
  | cons p rest ih =>
      obtain ⟨j, v⟩ := p
      change (if j == k then some (if j == .text "password" then .text "***" else v) else (hidden rest).get? k) = _
      cases named : j == k with
      | true =>
          rw [BEq.congr_left named]
          cases k == .text "password" <;> simp [Entries.get?, named]
      | false => simp [Entries.get?, named, ih]

theorem hidden_same_iff (alike : s.EqualButPasswords t) :
    s.hidden = t.hidden ↔ s.get? (.text "options") = t.get? (.text "options") := by
  have shown (u : Settings) : u.hidden.get? (.text "options") = u.get? (.text "options") := hidden_get u _
  have hidden : Entries.SameBut (· = .text "options") s.hidden t.hidden := by
    refine ⟨?_, ?_, fun k other => ?_⟩
    · rw [hidden_keys, hidden_keys, alike.others.keys]
    · rw [Entries.Distinct, hidden_keys]
      exact alike.others.distinct
    · rw [hidden_get, hidden_get]
      cases secret : k == .text "password" with
      | true =>
          have present : (s.get? k).isSome = (t.get? k).isSome := by
            rw [Entries.get_is_some, Entries.get_is_some, alike.others.keys]
          cases given : s.get? k <;> cases given' : t.get? k <;> simp_all
      | false =>
          have named : k ≠ .text "password" := by
            rintro rfl
            cases secret
          exact alike.others.values k (not_or.mpr ⟨named, other⟩)
  rw [Entries.same_iff hidden, shown, shown]

theorem options_same_iff {v v' : Option Value} (alike : OptionsAlike v v') :
    v = v' ↔ passwordAmong v = passwordAmong v' := by
  cases alike with
  | same v => exact ⟨fun _ => rfl, fun _ => rfl⟩
  | tables alike =>
      rw [Option.some.injEq, Value.table.injEq]
      exact Entries.same_iff alike

end Settings

theorem missing_url_refused {s : Settings} (missing : s.url.isTruthy = false) (w : World) :
    (Source.settings s).create w =
      .error (Kind.connectionSource.failure ("Cannot create connection from settings " ++ s.hidden.literal)) w := by
  change Source.connect s w = _
  rw [Source.connect, if_neg (by rw [missing]; exact Bool.false_ne_true)]
  rfl

-- The refusal shows the password among the options, and no other.
theorem missing_url_told_iff {s t : Settings} (alike : s.EqualButPasswords t) (missing : s.url.isTruthy = false) :
    ∃ m m', (∀ w, (Source.settings s).create w = .error (Kind.connectionSource.failure m) w) ∧
      (∀ w, (Source.settings t).create w = .error (Kind.connectionSource.failure m') w) ∧
      (m = m' ↔ s.optionsPassword = t.optionsPassword) := by
  have url : s.url = t.url := by
    rw [Settings.url, Settings.field, Settings.url, Settings.field, alike.others.values (.text "url") (by decide)]
  refine ⟨_, _, missing_url_refused missing, missing_url_refused (url ▸ missing), ?_⟩
  rw [String.append_right_inj]
  have told : s.hidden.literal = t.hidden.literal ↔ s.hidden = t.hidden :=
    ⟨Settings.literal_injective, congrArg Settings.literal⟩
  rw [told, Settings.hidden_same_iff alike, Settings.options_same_iff alike.options]
  rfl

theorem options_password_told :
    let s : Settings := [(.text "options", .table [("password", .text "s3cret")])]
    let t : Settings := [(.text "options", .table [("password", .text "hunter2")])]
    s.EqualButPasswords t ∧ s.url.isTruthy = false ∧
      ∃ m m', (∀ w, (Source.settings s).create w = .error (Kind.connectionSource.failure m) w) ∧
        (∀ w, (Source.settings t).create w = .error (Kind.connectionSource.failure m') w) ∧ m ≠ m' := by
  intro s t
  have options : Entries.SameBut (· = "password") [("password", Value.text "s3cret")] [("password", Value.text "hunter2")] :=
    ⟨rfl, List.pairwise_singleton .., fun k other => by simp [Entries.get?, Ne.symm other]⟩
  have alike : s.EqualButPasswords t := by
    refine ⟨⟨rfl, List.pairwise_singleton .., fun k other => ?_⟩, .tables options⟩
    have missing : (Label.text "options" == k) = false := by
      rw [← Bool.not_eq_true, Label.beq_iff]
      intro same
      cases k with
      | text n => exact other (Or.inr same.symm)
      | _ => cases same
    simp [s, t, Entries.get?, missing]
  obtain ⟨m, m', here, there, same⟩ := missing_url_told_iff alike rfl
  refine ⟨alike, rfl, m, m', here, there, fun equal => ?_⟩
  have differ : (some (Value.text "s3cret")) ≠ some (.text "hunter2") := by simp
  exact differ (same.mp equal)

end SqlScope
