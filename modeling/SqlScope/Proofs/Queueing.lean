import Mathlib.Data.List.Forall2
import SqlScope.Proofs.Elementary
import SqlScope.Proofs.CursorSteps

set_option autoImplicit false

namespace SqlScope

open SqlScope.Action

variable {t : Statement} {c : Connection} {u v w w' : World}

def World.Blank (w : World) : Prop := ∀ i, w.handles ≤ i → w.statements.get i = default

-- The values that a client means by what it gives for one entry. A text is the list of its characters.
inductive Given.Provides : Given → List Value → Prop where
  | nothing : Provides .nothing []
  | list (values : List Value) : Provides (.list values) values
  | text {s : String} {values : List Value} (size : values.length = s.length)
      (each : ∀ (i : Nat) (c : Char), s.toList[i]? = some c → values[i]? = some (Value.text (String.singleton c))) :
      Provides (.text s) values

inductive Given.ProvidesAll : Option (List Given) → List (List Value) → Prop where
  | nothing : ProvidesAll none []
  | entries {batch : List Given} {entries : List (List Value)} (each : List.Forall₂ Given.Provides batch entries) :
      ProvidesAll (some batch) entries

structure Placeholders.Holding (values : List Value) (es : Entries Nat Value) : Prop where
  last : Placeholders.last es = values.length
  bound : ∀ i, es.get? (i + 1) = values[i]?

structure Statement.Turns (t : Statement) (record : StatementState) (w w' : World) : Prop where
  record : w'.statements.get t.index = record
  rest : { w' with statements := w.statements } = w

structure Statement.Queued (t : Statement) (c : Connection) (sql : String) (entries : List (List Value)) (w w' : World) : Prop where
  calls : Adds [(.openCursor c.raw, none)] w w'
  queue : (w'.statements.get t.index).queue = entries
  unclosed : (w'.statements.get t.index).closed = false
  on : t.cursor.connection = c.raw
  text : t.sql = sql
  lent : c.held w' = .ok (.lent c.raw) w'

theorem Given.values_of_text {s : String} {values : List Value} (provides : Given.Provides (.text s) values) :
    values = s.toList.map fun c => .text (String.singleton c) := by
  cases provides with
  | text size each =>
      refine List.ext_getElem? fun i => ?_
      rw [List.getElem?_map]
      cases there : s.toList[i]? with
      | some c => exact each i c there
      | none =>
          have beyond := List.getElem?_eq_none_iff.mp there
          rw [String.length_toList, ← size] at beyond
          exact List.getElem?_eq_none beyond

def filing : Law where
  inv _ := True
  rel w w' := w'.statements = w.statements
  refl _ := rfl
  trans _ _ _ first second := second.trans first

namespace Placeholders

theorem holding_nothing : Holding [] [] := ⟨rfl, fun _ => rfl⟩

theorem holding_next {values : List Value} {es : Entries Nat Value} (holding : Holding values es) (v : Value) :
    Holding (values ++ [v]) (es.insert (values.length + 1) v) where
  last := by
    have free : es.get? (values.length + 1) = none := by simp [holding.bound]
    have before : es.keys.foldl max 0 = values.length := holding.last
    rw [last, Entries.keys_insert, free]
    simp [before]
  bound i := by
    rw [Entries.get?_insert, holding.bound]
    rcases Nat.lt_trichotomy i values.length with older | rfl | beyond
    · have apart : values.length ≠ i := Nat.ne_of_gt older
      simp [apart, List.getElem?_append_left older]
    · simp
    · have apart : values.length ≠ i := Nat.ne_of_lt beyond
      have outside : values[i]? = none := List.getElem?_eq_none (Nat.le_of_lt beyond)
      have outside' : (values ++ [v])[i]? = none := List.getElem?_eq_none (by simp; omega)
      simp [apart, outside, outside']

theorem all_of_holding {values : List Value} {es : Entries Nat Value} (holding : Holding values es) :
    all es = (List.range values.length).map (1 + ·) := by
  rw [all, holding.last, List.range'_eq_map_range]

theorem filled {values : List Value} {es : Entries Nat Value} (holding : Holding values es) (i : Nat) :
    es.get? (1 + i) = values[i]? := by
  rw [Nat.add_comm, holding.bound]

theorem missing_of_holding {values : List Value} {es : Entries Nat Value} (holding : Holding values es) :
    missing es = [] := by
  rw [missing, all_of_holding holding]
  simp [filled holding]

theorem filter_map_positions {α : Type} (l : List α) : (List.range l.length).filterMap (fun i => l[i]?) = l := by
  induction l with
  | nil => rfl
  | cons a rest ih =>
      have later : (fun i => (a :: rest)[i]?) ∘ Nat.succ = fun i => rest[i]? := rfl
      have first : (fun i => (a :: rest)[i]?) 0 = some a := rfl
      rw [List.length_cons, List.range_succ_eq_map, List.filterMap_cons_some first, List.filterMap_map, later, ih]

theorem values_of_holding {values : List Value} {es : Entries Nat Value} (holding : Holding values es) :
    Placeholders.values es = values := by
  have positions : es.get? ∘ (1 + ·) = fun i => values[i]? := funext fun i => filled holding i
  rw [Placeholders.values, all_of_holding holding, List.filterMap_map, positions]
  exact filter_map_positions values

end Placeholders

namespace Statement

theorem turns_refl (t : Statement) (w : World) : t.Turns (w.statements.get t.index) w w := ⟨rfl, rfl⟩

theorem turns_trans {first second : StatementState} (early : t.Turns first u v) (late : t.Turns second v w) :
    t.Turns second u w where
  record := late.record
  rest := by
    have onward := congrArg (fun x : World => { x with statements := u.statements }) late.rest
    exact onward.trans early.rest

theorem turns_proxies {record : StatementState} (turns : t.Turns record w w') : w'.proxies = w.proxies := by
  have same := congrArg World.proxies turns.rest
  exact same

theorem turns_history {record : StatementState} (turns : t.Turns record w w') : w'.history = w.history := by
  have same := congrArg World.history turns.rest
  exact same

theorem update_turns (t : Statement) (f : StatementState → StatementState) (w : World) :
    t.Turns (f (w.statements.get t.index)) w ((t.update f).after w) where
  record := (Table.get_put _ _ _ _).trans (if_pos rfl)
  rest := rfl

theorem set_within (t : Statement) {i : Int} (within : 1 ≤ i) (v : Value) (w : World) :
    t.set i v w = .ok () ((t.update fun s => { s with parameters := s.parameters.insert i.toNat v }).after w) := by
  rw [set, if_neg (Int.not_lt.mpr within)]
  rfl

theorem parameters_bound {values : List Value} (holding : Placeholders.Holding values (w.statements.get t.index).parameters) :
    t.parameters w = .ok values w := by
  have looked : t.state w = .ok (w.statements.get t.index) w := rfl
  rw [parameters, bind_of_ok looked]
  simp only [Placeholders.missing_of_holding holding, Placeholders.values_of_holding holding]
  rfl

end Statement

namespace Binder

theorem set_from_turns (t : Statement) (before values : List Value)
    (holding : Placeholders.Holding before (w.statements.get t.index).parameters) :
    ∃ es w', setFrom t (before.length + 1) values w = .ok () w' ∧ Placeholders.Holding (before ++ values) es ∧
      t.Turns { w.statements.get t.index with parameters := es } w w' := by
  induction values generalizing before w with
  | nil =>
      refine ⟨_, w, rfl, ?_, t.turns_refl w⟩
      rw [List.append_nil]
      exact holding
  | cons v rest ih =>
      let enter : StatementState → StatementState :=
        fun s => { s with parameters := s.parameters.insert (before.length + 1) v }
      have first := t.update_turns enter w
      have ran : t.set (before.length + 1) v w = .ok () ((t.update enter).after w) := by
        have index : ((before.length : Int) + 1).toNat = before.length + 1 := by omega
        rw [t.set_within (by omega), index]
      have longer : Placeholders.Holding (before ++ [v]) (((t.update enter).after w).statements.get t.index).parameters := by
        rw [first.record]
        exact Placeholders.holding_next holding v
      obtain ⟨es, w', ran', bound, onward⟩ := ih (before ++ [v]) longer
      rw [first.record] at onward
      have next : ((before ++ [v]).length : Int) + 1 = before.length + 1 + 1 := by simp
      rw [next] at ran'
      refine ⟨es, w', (bind_of_ok ran).trans ran', ?_, Statement.turns_trans first onward⟩
      rw [List.append_cons]
      exact bound

theorem of_given_turns (t : Statement) (given : Given) (empty : (w.statements.get t.index).parameters = []) :
    ∃ values es w', given.Provides values ∧ ofGiven given t w = .ok () w' ∧ Placeholders.Holding values es ∧
      t.Turns { w.statements.get t.index with parameters := es } w w' := by
  have nothing : Placeholders.Holding [] (w.statements.get t.index).parameters := by
    rw [empty]
    exact Placeholders.holding_nothing
  cases given with
  | nothing =>
      obtain ⟨es, w', ran, bound, turns⟩ := set_from_turns t [] [] nothing
      exact ⟨[], es, w', .nothing, ran, bound, turns⟩
  | list values =>
      obtain ⟨es, w', ran, bound, turns⟩ := set_from_turns t [] values nothing
      exact ⟨values, es, w', .list values, ran, bound, turns⟩
  | text s =>
      obtain ⟨es, w', ran, bound, turns⟩ :=
        set_from_turns t [] (s.toList.map fun c => Value.text (String.ofList [c])) nothing
      refine ⟨_, es, w', .text ?_ fun i c there => ?_, ran, bound, turns⟩
      · rw [List.nil_append, List.length_map, String.length_toList]
      · rw [List.nil_append, List.getElem?_map, there, String.singleton_eq_ofList]
        rfl

theorem of_entries_turns (t : Statement) (batch : List Given) (empty : (w.statements.get t.index).parameters = []) :
    ∃ entries w', List.Forall₂ Given.Provides batch entries ∧ ofEntries batch t w = .ok () w' ∧
      t.Turns { w.statements.get t.index with queue := (w.statements.get t.index).queue ++ entries } w w' := by
  induction batch generalizing w with
  | nil =>
      refine ⟨[], w, .nil, rfl, ?_⟩
      rw [List.append_nil]
      exact t.turns_refl w
  | cons given rest ih =>
      obtain ⟨values, es, w₁, provides, filled, bound, first⟩ := of_given_turns t given empty
      have read : t.parameters w₁ = .ok values w₁ := by
        refine Statement.parameters_bound ?_
        rw [first.record]
        exact bound
      let queue : StatementState → StatementState := fun s => { s with queue := s.queue ++ [values] }
      let clear : StatementState → StatementState := fun s => { s with parameters := [] }
      have second := t.update_turns queue w₁
      have third := t.update_turns clear ((t.update queue).after w₁)
      have queued : t.enqueue w₁ = .ok () ((t.update queue).after w₁) := bind_of_ok read
      have cleared : t.clear ((t.update queue).after w₁) = .ok () ((t.update clear).after ((t.update queue).after w₁)) := rfl
      have turned := Statement.turns_trans first (Statement.turns_trans second third)
      obtain ⟨entries, w', provide, ran, onward⟩ :=
        ih (w := (t.update clear).after ((t.update queue).after w₁)) (by rw [third.record])
      refine ⟨values :: entries, w', .cons provides provide, ?_, ?_⟩
      · exact (bind_of_ok filled).trans ((bind_of_ok queued).trans ((bind_of_ok cleared).trans ran))
      · have whole := Statement.turns_trans turned onward
        rw [third.record, second.record, first.record] at whole
        simp only [clear, queue, List.append_assoc, List.singleton_append] at whole
        rw [← empty] at whole
        exact whole

theorem of_batch_turns (t : Statement) (batch : Option (List Given)) (empty : (w.statements.get t.index).parameters = []) :
    ∃ entries w', Given.ProvidesAll batch entries ∧ ofBatch batch t w = .ok () w' ∧
      t.Turns { w.statements.get t.index with queue := (w.statements.get t.index).queue ++ entries } w w' := by
  cases batch with
  | none =>
      obtain ⟨entries, w', provide, ran, turns⟩ := of_entries_turns t [] empty
      cases provide
      exact ⟨[], w', .nothing, ran, turns⟩
  | some batch =>
      obtain ⟨entries, w', provide, ran, turns⟩ := of_entries_turns t batch empty
      exact ⟨entries, w', .entries provide, ran, turns⟩

end Binder

theorem filing_allows_opening : filing.AllowsOpening where
  call _ _ _ := kept_modify fun _ _ => ⟨trivial, rfl⟩
  debug _ _ := kept_modify fun _ _ => ⟨trivial, rfl⟩
  fresh := fun _ _ => ⟨trivial, rfl⟩
  pool _ := kept_modify fun _ _ => ⟨trivial, rfl⟩
  session _ _ := kept_modify fun _ _ => ⟨trivial, rfl⟩
  opening := kept_modify fun _ _ => ⟨trivial, rfl⟩

theorem open_cursor_files (c : Connection) : filing.Kept c.openCursor := by
  refine kept_bind c.held_kept fun h => kept_bind (h.callee_kept "cursor") fun k => kept_bind k.state_kept fun t => ?_
  refine kept_bind (kept_modify fun _ _ => ⟨trivial, rfl⟩) fun _ => ?_
  refine kept_bind (attempt_opening_allowed filing_allows_opening rfl t.cursorFaults.due) fun _ => ?_
  exact kept_bind (kept_modify fun _ _ => ⟨trivial, rfl⟩) fun _ => kept_pure _

theorem blank_entered {s : Session} (blank : w.Blank) (entered : s.entry w = .ok c w') : w'.Blank := by
  have files := (Session.entry_kept filing_allows_opening s w trivial).2
  rw [after_of_ok entered] at files
  have later : w.handles ≤ w'.handles := by
    rcases entered_cases entered with ⟨rfl, _⟩ | ⟨binds, _⟩
    · exact Nat.le_refl _
    · exact binds.rest.handles
  intro i above
  have same : w'.statements = w.statements := files
  rw [same]
  exact blank i (Nat.le_trans later above)

-- A connection stands for the same as long as its proxy is left alone.
theorem held_unchanged (lent : c.held w = .ok (.lent c.raw) w) (same : ∀ i, w'.proxies.get i = w.proxies.get i) :
    c.held w' = .ok (.lent c.raw) w' := by
  cases c with
  | direct k => rfl
  | pooled p =>
      have held : p.held w = .ok ((w.proxies.get p.index).held p) w := proxy_held_ok p w
      have held' : p.held w' = .ok ((w'.proxies.get p.index).held p) w' := proxy_held_ok p w'
      have stands : (w.proxies.get p.index).held p = .lent p.raw := (EStateM.Result.ok.inj (held.symm.trans lent)).1
      rw [same, stands] at held'
      exact held'

theorem reaches_lent {call : Call} {calls : Calls} (lent : c.held w = .ok (.lent c.raw) w) (reaches : c.Reaches call w calls) :
    ∃ fault, calls = [(call, fault)] := by
  cases reaches with
  | called => exact ⟨_, rfl⟩
  | unreachable value => cases lent.symm.trans value

theorem open_bound_queues (c : Connection) (sql : String) (batch : Option (List Given)) (blank : w.Blank) :
    (∃ entries t w', Given.ProvidesAll batch entries ∧
      Statement.openBound c sql (Binder.ofBatch batch) w = .ok t w' ∧ t.Queued c sql entries w w') ∨
    ∃ e w' calls, Statement.openBound c sql (Binder.ofBatch batch) w = .error e w' ∧
      c.Reaches (.openCursor c.raw) w calls ∧ (∀ made ∈ calls, made.2 ≠ none) ∧ Adds calls w w' := by
  have refused : ∀ {e u}, c.openCursor w = .error e u → ∃ e, Statement.openBound c sql (Binder.ofBatch batch) w = .error e u :=
    fun failed => ⟨_, bind_of_error (bind_of_error (wrapping_of_error failed _ _))⟩
  rcases open_cursor_calls c w with ⟨q, u, opened, lent, calls⟩ | ⟨g, u, failed, adds⟩ | ⟨v, value, failed⟩
  · left
    let t : Statement := ⟨u.handles, sql, q⟩
    let v := { u with handles := u.handles + 1 }
    have ran : Statement.on c sql w = .ok t v := bind_of_ok (on_ordinary_of_ok opened)
    have acts := (c.open_cursor_acts (P := fun _ => True) trivial w trivial).2
    have files := (open_cursor_files c w trivial).2
    rw [after_of_ok opened] at acts files
    have new : v.statements.get t.index = default := by
      have same : u.statements = w.statements := files
      change u.statements.get u.handles = default
      rw [same]
      exact blank _ acts.handles
    obtain ⟨entries, w', provide, bound, turns⟩ := Binder.of_batch_turns t batch (w := v) (by rw [new]; rfl)
    have record := turns.record
    rw [new] at record
    have proxies : ∀ i, w'.proxies.get i = w.proxies.get i := fun i => by
      rw [Statement.turns_proxies turns]
      exact acts.proxies i
    have history : w'.history = v.history := Statement.turns_history turns
    have quiet : Adds [] u w' := adds_same history
    refine ⟨entries, t, w', provide, (bind_of_ok ran).trans (bind_of_ok (outcome_of_ok bound)), ?_⟩
    refine ⟨adds_trans calls quiet, by rw [record]; rfl, by rw [record]; rfl, ?_, rfl, held_unchanged lent proxies⟩
    exact c.open_cursor_gives w q u opened
  · obtain ⟨e, failed⟩ := refused failed
    refine Or.inr ⟨e, u, _, failed, .called, fun made member => ?_, adds⟩
    rw [List.mem_singleton.mp member]
    exact Option.some_ne_none g
  · obtain ⟨e, failed⟩ := refused failed
    exact Or.inr ⟨e, w, [], failed, .unreachable value, fun _ absurd => (List.not_mem_nil absurd).elim, adds_same rfl⟩

end SqlScope
