import Mathlib.Data.List.SplitBy
import SqlScope.ConnectionString

set_option autoImplicit false

namespace SqlScope.ConnectionString

variable {blank : Bool} {cs rest r t before value value' : List Char} {l : List (List Char)}

def stars : List Char := ['*', '*', '*']

def Blank (cs : List Char) : Prop := ∀ a ∈ cs, Text.isBlank a = true

def Solid (cs : List Char) : Prop := ∀ a ∈ cs, Text.isBlank a = false

def Fresh (rest : List Char) : Prop := ∀ a, rest.head? = some a → Text.isBlank a = true

theorem solid_of_all (all : (cs.all fun a => !Text.isBlank a) = true) : Solid cs := by
  intro a member
  simpa using List.all_eq_true.mp all a member

theorem keyword_solid : Solid keyword := solid_of_all (by decide)

theorem solid_append (first : Solid cs) (second : Solid rest) : Solid (cs ++ rest) := by
  intro a member
  rcases List.mem_append.mp member with early | late
  · exact first a early
  · exact second a late

theorem begins_secret_iff (cs : List Char) :
    beginsSecret cs = true ↔ ∃ a rest, cs = keyword ++ a :: rest ∧ Text.isBlank a = false := by
  rw [beginsSecret, Bool.and_eq_true, List.isPrefixOf_iff_prefix]
  constructor
  · rintro ⟨⟨behind, rfl⟩, given⟩
    rw [List.drop_left] at given
    cases behind with
    | nil => cases given
    | cons a rest => exact ⟨a, rest, rfl, by simpa using given⟩
  · rintro ⟨a, rest, rfl, solid⟩
    refine ⟨List.prefix_append _ _, ?_⟩
    rw [List.drop_left]
    simp [solid]

theorem begins_secret_fresh (cs : List Char) (fresh : Fresh rest) : beginsSecret (cs ++ rest) = beginsSecret cs := by
  rw [Bool.eq_iff_iff, begins_secret_iff, begins_secret_iff]
  constructor
  · rintro ⟨a, behind, spelled, solid⟩
    rw [show keyword ++ a :: behind = keyword ++ [a] ++ behind by simp] at spelled
    rcases List.append_eq_append_iff.mp spelled with ⟨more, secret, later⟩ | ⟨more, earlier, _⟩
    · cases more with
      | nil => exact ⟨a, [], by rw [← List.append_nil cs, ← secret], solid⟩
      | cons b others =>
          have blank := fresh b (by rw [later]; rfl)
          have solid' := solid_append keyword_solid (fun d only => by rw [List.mem_singleton.mp only]; exact solid)
            b (by rw [secret]; exact List.mem_append_right cs List.mem_cons_self)
          rw [blank] at solid'
          cases solid'
    · exact ⟨a, more, by rw [earlier, List.append_assoc]; rfl, solid⟩
  · rintro ⟨a, behind, rfl, solid⟩
    exact ⟨a, behind ++ rest, by simp, solid⟩

theorem blank_begins_no_secret {a : Char} (isBlank : Text.isBlank a = true) (cs : List Char) :
    beginsSecret (a :: cs) = false := by
  rw [Bool.eq_false_iff, Ne, begins_secret_iff]
  rintro ⟨b, rest, spelled, _⟩
  have first : a = 'p' := by
    rw [show keyword = 'p' :: "assword=".toList from rfl, List.cons_append] at spelled
    exact (List.cons.inj spelled).1
  rw [first] at isBlank
  revert isBlank
  decide

theorem hide_blank {a : Char} (isBlank : Text.isBlank a = true) (inside : Bool) (cs : List Char) :
    hide inside (a :: cs) = a :: hide false cs := by
  rw [hide, if_pos isBlank, blank_begins_no_secret isBlank]
  cases inside with
  | false => rfl
  | true => rfl

theorem hide_fresh (fresh : Fresh rest) (inside : Bool) : hide inside rest = hide false rest := by
  cases rest with
  | nil => rfl
  | cons a more => rw [hide_blank (fresh a rfl), hide_blank (fresh a rfl)]

theorem hide_within {a : Char} (solid : Text.isBlank a = false) (cs : List Char) :
    hide true (a :: cs) = hide true cs := by
  rw [hide, if_pos rfl, solid]
  rfl

theorem hide_secret {a : Char} (begins : beginsSecret (a :: cs) = true) :
    hide false (a :: cs) = keyword ++ stars ++ hide true cs := by
  rw [hide, if_neg Bool.false_ne_true, if_pos begins]
  rfl

theorem hide_other {a : Char} (other : beginsSecret (a :: cs) = false) :
    hide false (a :: cs) = a :: hide false cs := by
  rw [hide, if_neg Bool.false_ne_true, other]
  rfl

theorem hide_break (cs : List Char) (fresh : Fresh rest) (inside : Bool) :
    hide inside (cs ++ rest) = hide inside cs ++ hide false rest := by
  induction cs generalizing inside with
  | nil => exact hide_fresh fresh inside
  | cons a cs ih =>
      have same := begins_secret_fresh (a :: cs) fresh
      rw [List.cons_append] at same ⊢
      cases blank : Text.isBlank a with
      | true => rw [hide_blank blank, hide_blank blank, ih, List.cons_append]
      | false =>
          cases inside with
          | true => rw [hide_within blank, hide_within blank, ih]
          | false =>
              cases begins : beginsSecret (a :: cs) with
              | true => rw [hide_secret begins, hide_secret (same.trans begins), ih, ← List.append_assoc]
              | false => rw [hide_other begins, hide_other (same.trans begins), ih, List.cons_append]

theorem hide_inside (solid : Solid cs) (rest : List Char) : hide true (cs ++ rest) = hide true rest := by
  induction cs with
  | nil => rfl
  | cons a cs ih =>
      rw [List.cons_append, hide_within (solid a List.mem_cons_self)]
      exact ih fun b later => solid b (List.mem_cons_of_mem a later)

theorem hide_value (solid : Solid cs) : hide true cs = [] := by
  have inside := hide_inside solid []
  rwa [List.append_nil] at inside

theorem hide_spaces (spaces : Blank cs) (rest : List Char) : hide false (cs ++ rest) = cs ++ hide false rest := by
  induction cs with
  | nil => rfl
  | cons a cs ih =>
      rw [List.cons_append, hide_blank (spaces a List.mem_cons_self), ih fun b later => spaces b (List.mem_cons_of_mem a later)]
      rfl

theorem hide_all_spaces (spaces : Blank cs) : hide false cs = cs := by
  have same := hide_spaces spaces []
  rw [List.append_nil] at same
  exact same.trans (List.append_nil cs)

-- The first place in a token at which the keyword stands with a value behind it.
structure Cut (token before value : List Char) : Prop where
  spelled : token = before ++ keyword ++ value
  given : value ≠ []
  first : ∀ before' value', token = before' ++ keyword ++ value' → value' ≠ [] → before.length ≤ before'.length

def Plain (token : List Char) : Prop := ∀ before value, token = before ++ keyword ++ value → value = []

theorem cut_unique {before' : List Char} (cut : Cut t before value) (cut' : Cut t before' value') : before = before' := by
  have length : before.length = before'.length :=
    Nat.le_antisymm (cut.first _ _ cut'.spelled cut'.given) (cut'.first _ _ cut.spelled cut.given)
  have same := cut.spelled.symm.trans cut'.spelled
  rw [List.append_assoc, List.append_assoc] at same
  exact (List.append_inj same length).1

theorem cut_other (cut : Cut t before value) (given : value' ≠ []) : Cut (before ++ keyword ++ value') before value' := by
  refine ⟨rfl, given, fun before' found spelled some => Nat.le_of_not_lt fun earlier => ?_⟩
  rcases List.append_eq_append_iff.mp spelled with ⟨more, longer, _⟩ | ⟨more, shorter, _⟩
  · have longest := congrArg List.length longer
    simp only [List.length_append] at longest
    omega
  · have place : t = before' ++ keyword ++ (more ++ value) := by rw [cut.spelled, shorter, List.append_assoc]
    have late := cut.first before' (more ++ value) place fun none => cut.given (List.append_eq_nil_iff.mp none).2
    omega

theorem no_secret_here (solid : Solid t) (none : beginsSecret t = false) (spelled : t = keyword ++ value) : value = [] := by
  cases value with
  | nil => rfl
  | cons b more =>
      have given := solid b (by rw [spelled]; exact List.mem_append_right keyword List.mem_cons_self)
      rw [(begins_secret_iff t).mpr ⟨b, more, spelled, given⟩] at none
      cases none

theorem plain_or_cut (solid : Solid t) :
    Plain t ∧ hide false t = t ∨ ∃ before value, Cut t before value ∧ hide false t = before ++ keyword ++ stars := by
  induction t with
  | nil => exact Or.inl ⟨fun before value spelled => by simp_all, rfl⟩
  | cons a rest ih =>
      have solid' : Solid rest := fun b later => solid b (List.mem_cons_of_mem a later)
      cases begins : beginsSecret (a :: rest) with
      | true =>
          obtain ⟨b, more, spelled, _⟩ := (begins_secret_iff _).mp begins
          refine Or.inr ⟨[], b :: more, ⟨spelled, List.cons_ne_nil b more, fun _ _ _ _ => Nat.zero_le _⟩, ?_⟩
          rw [hide_secret begins, hide_value solid', List.append_nil]
          rfl
      | false =>
          rw [hide_other begins]
          rcases ih solid' with ⟨plain, same⟩ | ⟨before, value, cut, hidden⟩
          · refine Or.inl ⟨fun before value spelled => ?_, by rw [same]⟩
            cases before with
            | nil => exact no_secret_here solid begins spelled
            | cons b others => exact plain others value (List.cons.inj spelled).2
          · refine Or.inr ⟨a :: before, value, ⟨congrArg (a :: ·) cut.spelled, cut.given, ?_⟩, by rw [hidden]; rfl⟩
            intro before' value' spelled given
            cases before' with
            | nil => exact (given (no_secret_here solid begins spelled)).elim
            | cons b others => exact Nat.succ_le_succ (cut.first others value' (List.cons.inj spelled).2 given)

theorem hide_cut (solid : Solid t) (cut : Cut t before value) : hide false t = before ++ keyword ++ stars := by
  rcases plain_or_cut solid with ⟨plain, _⟩ | ⟨before', value', cut', hidden⟩
  · exact (cut.given (plain before value cut.spelled)).elim
  · rw [hidden, cut_unique cut cut']

-- What becomes of a run: only a token with a value behind the keyword changes, from that value on.
inductive Redacts : List Char → List Char → Prop where
  | space {r : List Char} (blank : Blank r) : Redacts r r
  | plain {r : List Char} (token : Solid r) (plain : Plain r) : Redacts r r
  | cut {r before value : List Char} (token : Solid r) (cut : Cut r before value) : Redacts r (before ++ keyword ++ stars)

def Uniform (blank : Bool) (r : List Char) : Prop := ∀ a ∈ r, Text.isBlank a = blank

theorem uniform_redacts (uniform : Uniform blank r) : Redacts r (hide false r) := by
  cases blank with
  | true =>
      rw [hide_all_spaces uniform]
      exact .space uniform
  | false =>
      rcases plain_or_cut uniform with ⟨plain, same⟩ | ⟨before, value, cut, hidden⟩
      · rw [same]
        exact .plain uniform plain
      · rw [hidden]
        exact .cut uniform cut

inductive Alternates : Bool → List (List Char) → Prop where
  | nil {blank : Bool} : Alternates blank []
  | cons {blank : Bool} {r : List Char} {l : List (List Char)} (some : r ≠ []) (uniform : Uniform blank r)
      (alternates : Alternates (!blank) l) : Alternates blank (r :: l)

theorem stars_solid : Solid stars := solid_of_all (by decide)

theorem cut_solid (solid : Solid t) (cut : Cut t before value) (solid' : Solid value') :
    Solid (before ++ keyword ++ value') := by
  refine solid_append (solid_append (fun a member => solid a ?_) keyword_solid) solid'
  rw [cut.spelled]
  exact List.mem_append_left _ (List.mem_append_left _ member)

theorem hide_uniform (some : r ≠ []) (uniform : Uniform blank r) : hide false r ≠ [] ∧ Uniform blank (hide false r) := by
  cases blank with
  | true =>
      rw [hide_all_spaces uniform]
      exact ⟨some, uniform⟩
  | false =>
      rcases plain_or_cut uniform with ⟨_, same⟩ | ⟨before, value, cut, hidden⟩
      · rw [same]
        exact ⟨some, uniform⟩
      · rw [hidden]
        exact ⟨by simp [stars], cut_solid uniform cut stars_solid⟩

theorem alternates_head (alternates : Alternates blank l) {a : Char} (first : l.flatten.head? = some a) :
    Text.isBlank a = blank := by
  cases alternates with
  | nil => cases first
  | @cons _ r l some uniform _ =>
      cases r with
      | nil => exact (some rfl).elim
      | cons b rest =>
          cases first
          exact uniform a List.mem_cons_self

-- Hiding goes run by run, as no value reaches into the next run.
theorem hide_runs (alternates : Alternates blank l) :
    hide false l.flatten = (l.map (hide false)).flatten ∧ Alternates blank (l.map (hide false)) := by
  induction alternates with
  | nil => exact ⟨rfl, .nil⟩
  | @cons blank r l some uniform alternates ih =>
      obtain ⟨some', uniform'⟩ := hide_uniform some uniform
      refine ⟨?_, .cons some' uniform' ih.2⟩
      rw [List.flatten_cons, List.map_cons, List.flatten_cons, ← ih.1]
      cases blank with
      | true =>
          rw [hide_spaces uniform, hide_all_spaces uniform]
      | false => exact hide_break r (fun a => alternates_head alternates) false

def together (a b : Char) : Bool := Text.isBlank a == Text.isBlank b

def runs (cs : List Char) : List (List Char) := cs.splitBy together

theorem uniform_of_chain {a : Char} (chain : (a :: r).IsChain fun b d => together b d = true) :
    Uniform (Text.isBlank a) (a :: r) := by
  induction r generalizing a with
  | nil =>
      intro b only
      rw [List.mem_singleton.mp only]
  | cons b rest ih =>
      obtain ⟨same, chain⟩ := List.isChain_cons_cons.mp chain
      rw [together, beq_iff_eq] at same
      intro d member
      rcases List.mem_cons.mp member with rfl | later
      · rfl
      · rw [same]
        exact ih chain d later

theorem chain_of_uniform (uniform : Uniform blank r) : r.IsChain fun a b => together a b = true := by
  refine (List.pairwise_of_forall_mem_list fun a here b there => ?_).isChain
  rw [together, uniform a here, uniform b there, beq_self_eq_true]

theorem alternates_of_split (some : [] ∉ l) (chains : ∀ r ∈ l, r.IsChain fun a b => together a b = true)
    (breaks : l.IsChain fun r r' => ∃ h h', together (r.getLast h) (r'.head h') = false) : ∃ blank, Alternates blank l := by
  induction l with
  | nil => exact ⟨true, .nil⟩
  | cons r l ih =>
      obtain ⟨first, breaks'⟩ := List.isChain_cons.mp breaks
      obtain ⟨blank, alternates⟩ := ih (fun absurd => some (List.mem_cons_of_mem r absurd))
        (fun r' later => chains r' (List.mem_cons_of_mem r later)) breaks'
      have here := chains r List.mem_cons_self
      cases r with
      | nil => exact (some List.mem_cons_self).elim
      | cons a rest =>
          have uniform := uniform_of_chain here
          refine ⟨Text.isBlank a, .cons (List.cons_ne_nil a rest) uniform ?_⟩
          cases alternates with
          | nil => exact .nil
          | @cons _ r' l' some' uniform' alternates' =>
              obtain ⟨h, h', apart⟩ := first r' rfl
              rw [together, uniform _ (List.getLast_mem h), uniform' _ (List.head_mem h')] at apart
              have other : blank = !Text.isBlank a := by
                cases blank <;> cases kind : Text.isBlank a <;> simp_all
              subst other
              exact .cons some' uniform' alternates'

theorem runs_alternate (cs : List Char) : ∃ blank, Alternates blank (runs cs) :=
  alternates_of_split (List.nil_notMem_splitBy _ _) (fun _ => List.isChain_of_mem_splitBy)
    (List.isChain_getLast_head_splitBy _ _)

theorem runs_flatten (alternates : Alternates blank l) : runs l.flatten = l := by
  induction alternates with
  | nil => rfl
  | @cons blank r l some uniform alternates ih =>
      rw [List.flatten_cons, runs, List.splitBy_append, List.splitBy_of_isChain some (chain_of_uniform uniform)]
      · exact congrArg (r :: ·) ih
      · intro a last b first
        have before := uniform a (List.mem_of_mem_getLast? last)
        have behind := alternates_head alternates first
        rw [together, before, behind]
        cases blank <;> rfl

theorem runs_hidden (cs : List Char) : runs (hide false cs) = (runs cs).map (hide false) := by
  obtain ⟨blank, alternates⟩ := runs_alternate cs
  obtain ⟨hidden, alternates'⟩ := hide_runs alternates
  rw [show (runs cs).flatten = cs from List.flatten_splitBy _ _] at hidden
  rw [hidden, runs_flatten alternates']

theorem alternates_uniform (alternates : Alternates blank l) (member : r ∈ l) : ∃ blank', Uniform blank' r := by
  induction alternates with
  | nil => cases member
  | @cons blank r' l some uniform alternates ih =>
      rcases List.mem_cons.mp member with rfl | later
      · exact ⟨blank, uniform⟩
      · exact ih later

theorem run_uniform {cs : List Char} (member : r ∈ runs cs) : ∃ blank, Uniform blank r := by
  obtain ⟨blank, alternates⟩ := runs_alternate cs
  exact alternates_uniform alternates member

theorem hide_twice (uniform : Uniform blank r) : hide false (hide false r) = hide false r := by
  cases blank with
  | true => rw [hide_all_spaces uniform, hide_all_spaces uniform]
  | false =>
      rcases plain_or_cut uniform with ⟨_, same⟩ | ⟨before, value, cut, hidden⟩
      · rw [same, same]
      · rw [hidden, hide_cut (cut_solid uniform cut stars_solid) (cut_other cut (List.cons_ne_nil _ _))]

theorem hide_idempotent (cs : List Char) : hide false (hide false cs) = hide false cs := by
  have same : runs (hide false (hide false cs)) = runs (hide false cs) := by
    rw [runs_hidden, runs_hidden, List.map_map]
    refine List.map_congr_left fun r member => ?_
    obtain ⟨blank, uniform⟩ := run_uniform member
    exact hide_twice uniform
  have flat := congrArg List.flatten same
  rw [runs, runs, List.flatten_splitBy, List.flatten_splitBy] at flat
  exact flat

def tokens (cs : List Char) : List (List Char) := (runs cs).filter fun r => !r.all Text.isBlank

theorem all_blank_of_uniform (some : r ≠ []) (uniform : Uniform blank r) : r.all Text.isBlank = blank := by
  cases blank with
  | true => exact List.all_eq_true.mpr uniform
  | false =>
      cases r with
      | nil => exact (some rfl).elim
      | cons a rest => rw [List.all_cons, uniform a List.mem_cons_self, Bool.false_and]

theorem tokens_hidden (cs : List Char) : tokens (hide false cs) = (tokens cs).map (hide false) := by
  rw [tokens, tokens, runs_hidden, List.filter_map]
  congr 1
  refine List.filter_congr fun r member => ?_
  have some : r ≠ [] := List.ne_nil_of_mem_splitBy member
  obtain ⟨blank, uniform⟩ := run_uniform member
  obtain ⟨some', uniform'⟩ := hide_uniform some uniform
  rw [Function.comp_apply, all_blank_of_uniform some uniform, all_blank_of_uniform some' uniform']

theorem alternates_replace {left right : List (List Char)} (alternates : Alternates blank (left ++ t :: right)) (solid : Solid t)
    (some' : r ≠ []) (solid' : Solid r) : Alternates blank (left ++ r :: right) := by
  induction left generalizing blank with
  | nil =>
      cases alternates with
      | cons some uniform alternates =>
          have isToken : blank = false := by
            rw [← all_blank_of_uniform some uniform, all_blank_of_uniform some solid]
          subst isToken
          exact .cons some' solid' alternates
  | cons first left ih =>
      cases alternates with
      | cons some uniform alternates => exact .cons some uniform (ih alternates)

-- Of a token only what stands before the value shows.
theorem hide_replaced {left right : List (List Char)} (cutUp : runs cs = left ++ t :: right) (solid : Solid t)
    (cut : Cut t before value) (given : value' ≠ []) (solid' : Solid value') :
    hide false (left ++ (before ++ keyword ++ value') :: right).flatten = hide false cs := by
  have some : before ++ keyword ++ value' ≠ [] := fun none => given (List.append_eq_nil_iff.mp none).2
  have solid'' := cut_solid solid cut solid'
  obtain ⟨blank, alternates⟩ := runs_alternate cs
  have whole : (runs cs).flatten = cs := List.flatten_splitBy _ _
  rw [cutUp] at alternates whole
  rw [(hide_runs (alternates_replace alternates solid some solid'')).1, ← whole, (hide_runs alternates).1]
  rw [List.map_append, List.map_append, List.map_cons, List.map_cons, hide_cut solid cut,
    hide_cut solid'' (cut_other cut given)]

theorem redaction_token_by_token (s : String) :
    List.Forall₂ Redacts (runs s.toList) (runs (hidePassword s).toList) ∧
    (tokens (hidePassword s).toList).length = (tokens s.toList).length ∧
    hidePassword (hidePassword s) = hidePassword s ∧
    ∀ left token right before value value', runs s.toList = left ++ token :: right → Solid token →
      Cut token before value → value' ≠ [] → Solid value' →
      hidePassword (String.ofList (left ++ (before ++ keyword ++ value') :: right).flatten) = hidePassword s := by
  have listed : (hidePassword s).toList = hide false s.toList := String.toList_ofList
  refine ⟨?_, ?_, ?_, ?_⟩
  · rw [listed, runs_hidden, List.forall₂_map_right_iff, List.forall₂_same]
    intro r member
    obtain ⟨blank, uniform⟩ := run_uniform member
    exact uniform_redacts uniform
  · rw [listed, tokens_hidden, List.length_map]
  · rw [hidePassword, listed, hide_idempotent]
    rfl
  · intro left token right before value value' cutUp solid cut given solid'
    rw [hidePassword, String.toList_ofList, hide_replaced cutUp solid cut given solid']
    rfl

-- The keyword may stand inside a token, and again in the value behind it.
theorem other_secret_hidden_alike :
    let s := "user=sa\tsslpassword=one/password=two dbname=test"
    Cut "sslpassword=one/password=two".toList "ssl".toList "one/password=two".toList ∧
      hidePassword s = "user=sa\tsslpassword=*** dbname=test" ∧
      hidePassword "user=sa\tsslpassword=three dbname=test" = hidePassword s := by
  intro s
  have cut : Cut "sslpassword=one/password=two".toList "ssl".toList "one/password=two".toList := by
    refine ⟨rfl, List.cons_ne_nil _ _, fun before' value' spelled _ => ?_⟩
    rcases before' with _ | ⟨a, _ | ⟨b, _ | ⟨d, more⟩⟩⟩
    · exact absurd (List.cons.inj spelled).1 (by decide)
    · exact absurd (List.cons.inj (List.cons.inj spelled).2).1 (by decide)
    · exact absurd (List.cons.inj (List.cons.inj (List.cons.inj spelled).2).2).1 (by decide)
    · exact Nat.le_add_left 3 more.length
  have alike := (redaction_token_by_token s).2.2.2 ["user=sa".toList, ['\t']] "sslpassword=one/password=two".toList
    [[' '], "dbname=test".toList] "ssl".toList "one/password=two".toList "three".toList (by decide)
    (solid_of_all (by decide)) cut (List.cons_ne_nil _ _) (solid_of_all (by decide))
  exact ⟨cut, by decide, alike⟩

end SqlScope.ConnectionString
