import SqlScope.Proofs.Routine
import SqlScope.Proofs.StatementWork

set_option autoImplicit false

namespace SqlScope

open SqlScope.Action

structure Manner where
  own : {α : Type} → Action α → Prop
  text : String → Prop
  closes : Prop

namespace Routine

variable {α β : Type}

def Works (T : String → Prop) (held : Option RawConnection) (a : Action α) : Prop :=
  (acting fun call => ∃ c, held = some c ∧ call.Work c T).Kept a

-- The rest of a routine is only asked about values that its first part can give.
def Keeps (m : Manner) (s : Session) {α : Type} : Option RawConnection → Routine α → Prop
  | held, act .layer a => Works m.text held a
  | _, act .client a => m.own a
  | held, next x k => x.Keeps m s held ∧ ∀ w v w', x.run s w = .ok v w' → (k v).Keeps m s held
  | held, caught x => x.Keeps m s held
  | _, holding op => ∀ c, (op c).Keeps m s (some c.raw)
  | _, transact op _ => ∀ c, (op c).Keeps m s (some c.raw)
  | _, write body => ∀ c, (body c).Keeps m s (some c.raw)
  | _, close => m.closes

section

variable {m : Manner} {s : Session} {held : Option RawConnection} {c : RawConnection}

theorem works_of_acts {T : String → Prop} {a : Action α} (kept : (acting (Call.Work c T)).Kept a) :
    Works T (some c) a :=
  acting_mono (fun _ work => ⟨c, rfl, work⟩) kept

theorem keeps_done (v : α) : (done v).Keeps m s held := kept_pure v

theorem keeps_fail (f : Failure) : (Stepwise.fail f : Routine α).Keeps m s held := kept_throw f

theorem keeps_step {a : Action α} (kept : (acting (Call.Work c m.text)).Kept a) :
    (step a).Keeps m s (some c) := works_of_acts kept

theorem keeps_next {x : Routine α} {k : α → Routine β} (first : x.Keeps m s held)
    (rest : ∀ v, (k v).Keeps m s held) : (next x k).Keeps m s held :=
  ⟨first, fun _ v _ _ => rest v⟩

theorem keeps_next_gives {P : α → Prop} {x : Routine α} {k : α → Routine β} (first : x.Keeps m s held)
    (gives : Gives P (x.run s)) (rest : ∀ v, P v → (k v).Keeps m s held) : (next x k).Keeps m s held :=
  ⟨first, fun w v w' ran => rest v (gives w v w' ran)⟩

theorem keeps_closed : Stepwise.Closed Routine (Keeps m s held) where
  done := keeps_done
  fail := keeps_fail
  next _ _ first rest := keeps_next first rest

theorem keeps_closing {x : Closable} {body : Routine α} (closes : (acting (Call.Work c m.text)).Kept x.close)
    (keeps : body.Keeps m s (some c)) : (Stepwise.closing x body : Routine α).Keeps m s (some c) := by
  refine keeps_next keeps fun r => ?_
  cases r with
  | ok v => exact keeps_done v
  | error f => exact keeps_next (keeps_step (close_after_failure_acts closes _)) fun _ => keeps_fail f

theorem keeps_releasing {x : Closable} {body : Routine α} (closes : (acting (Call.Work c m.text)).Kept x.close)
    (keeps : body.Keeps m s (some c)) : (Stepwise.releasing x body : Routine α).Keeps m s (some c) :=
  keeps_next (keeps_closing closes keeps) fun _ =>
    keeps_step (kept_bind (kept_wrapping _ _ closes) fun _ => kept_pure _)

end

section

variable {m : Manner} {s : Session} {c : Connection} {sql : String}

theorem keeps_with_statement (text : m.text sql) {bind : Statement → Routine Unit}
    (binds : ∀ t, (bind t).Keeps m s (some c.raw)) {body : Statement → Routine α}
    (keeps : ∀ t, t.On c.raw m.text → (body t).Keeps m s (some c.raw)) :
    (Stepwise.withStatement c sql bind body : Routine α).Keeps m s (some c.raw) :=
  keeps_next_gives (keeps_step (Statement.on_acts c sql)) (Statement.on_gives c text) fun t on =>
    keeps_next (keeps_closing (x := .statement t) (t.close_acts on) (binds t)) fun _ =>
      keeps_releasing (x := .statement t) (t.close_acts on) (keeps t on)

theorem keeps_with_results (text : m.text sql) {bind : Statement → Routine Unit}
    (binds : ∀ t, (bind t).Keeps m s (some c.raw)) {consumer : RowCursor → Routine α}
    (keeps : ∀ r, r.cursor.connection = c.raw → (consumer r).Keeps m s (some c.raw)) :
    (Stepwise.withResults c sql bind consumer : Routine α).Keeps m s (some c.raw) := by
  refine keeps_with_statement text binds fun t on => ?_
  refine keeps_next_gives (keeps_step (t.query_acts on)) t.query_gives fun r same => ?_
  have there : r.cursor.connection = c.raw := same ▸ on.1
  exact keeps_releasing (x := .results r) (r.close_acts there) (keeps r there)

theorem keeps_walk {r : RowCursor} (there : r.cursor.connection = c.raw) (offset maxRows : Int)
    {f : Row → Routine α} (keeps : ∀ row, (f row).Keeps m s (some c.raw)) :
    (Stepwise.walk r offset maxRows f : Routine (List α)).Keeps m s (some c.raw) :=
  have moves := RowCursor.work_moves there
  Stepwise.walk_closed keeps_closed offset maxRows (keeps_step (RowCursor.move_to_kept moves offset))
    (keeps_step r.patience_kept) (keeps_step (RowCursor.advance_kept moves)) keeps

end

section

variable {m : Manner} {s : Session} {held : Option RawConnection} {sql : String}

theorem keeps_query (text : m.text sql) {bind : Statement → Routine Unit}
    (binds : ∀ c t, (bind t).Keeps m s (some c)) {consumer : RowCursor → Routine α}
    (keeps : ∀ c r, (consumer r).Keeps m s (some c)) : (query sql bind consumer).Keeps m s held :=
  fun c => keeps_with_results text (binds c.raw) fun r _ => keeps c.raw r

theorem keeps_update (text : m.text sql) {bind : Statement → Routine Unit}
    (binds : ∀ c t, (bind t).Keeps m s (some c)) {consumer : Int → Routine Unit}
    (keeps : ∀ n, (consumer n).Keeps m s held) : (update sql bind consumer).Keeps m s held := by
  refine keeps_next (fun c => ?_) fun n => keeps_next (keeps n) fun _ => keeps_done n
  exact keeps_with_statement text (binds c.raw) fun t on => keeps_step (t.run_update_acts on)

theorem keeps_batch (text : m.text sql) (given : Option (List Given)) {consumer : List Int → Routine Unit}
    (keeps : ∀ ns, (consumer ns).Keeps m s held) : (batch sql given consumer).Keeps m s held := by
  refine keeps_next (fun c => ?_) fun ns => keeps_next (keeps ns) fun _ => keeps_done ns
  refine keeps_with_statement text (fun t => ?_) fun t on => keeps_step (t.run_batch_acts on)
  exact keeps_step (Binder.of_batch_kept t.acts_queues given)

theorem keeps_page (text : m.text sql) {bind : Statement → Routine Unit}
    (binds : ∀ c t, (bind t).Keeps m s (some c)) {columns : List Column → Routine Unit}
    (shows : ∀ c cs, (columns cs).Keeps m s (some c)) (offset maxRows : Int) {f : Row → Routine α}
    (keeps : ∀ c row, (f row).Keeps m s (some c)) :
    (page sql bind columns offset maxRows f).Keeps m s held := by
  intro c
  refine keeps_with_results text (binds c.raw) fun r there => keeps_next (shows c.raw _) fun _ => ?_
  exact keeps_walk there offset maxRows (keeps c.raw)

theorem keeps_scan (text : m.text sql) {bind : Statement → Routine Unit}
    (binds : ∀ c t, (bind t).Keeps m s (some c)) {columns : List Column → Routine Unit}
    (shows : ∀ c cs, (columns cs).Keeps m s (some c)) (offset maxRows : Int) {f : Row → Routine Unit}
    (keeps : ∀ c row, (f row).Keeps m s (some c)) :
    (scan sql bind columns offset maxRows f).Keeps m s held :=
  keeps_next (keeps_page text binds shows offset maxRows keeps) fun _ => keeps_done ()

theorem keeps_records (text : m.text sql) {bind : Statement → Routine Unit}
    (binds : ∀ c t, (bind t).Keeps m s (some c)) (offset maxRows : Int) :
    (records sql bind offset maxRows).Keeps m s held :=
  keeps_page text binds (fun _ _ => keeps_done ()) offset maxRows fun _ _ => keeps_step (kept_of_except _)

theorem keeps_first_record (text : m.text sql) {bind : Statement → Routine Unit}
    (binds : ∀ c t, (bind t).Keeps m s (some c)) : (firstRecord sql bind).Keeps m s held :=
  keeps_next (keeps_records text binds 0 1) fun _ => keeps_done _

theorem keeps_report : report.Keeps m s held := fun c => keeps_step c.report_kept

end

end Routine

end SqlScope
