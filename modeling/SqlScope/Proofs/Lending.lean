import SqlScope.Proofs.Isolation

set_option autoImplicit false

namespace SqlScope

open SqlScope.Action

variable {α : Type} {s : Session}

def Connection.isOut (c : Connection) (w : World) : Bool :=
  match c with
  | .direct _ => false
  | .pooled p => !(w.proxies.get p.index).released.isTruthy

-- The binding that an operation drops because it reads as closed, if the pool still waits for it.
def Session.sheds (s : Session) (w : World) : List Connection :=
  match s.active? w with
  | .ok none _ => (s.binding w).toList.filter (·.isOut w)
  | _ => []

-- What a client does by itself: it lends nothing, hands nothing back, closes no raw connection, and leaves
-- the sessions and what a proxy stands for alone. How a connection reads may change in any way.
structure Conducts (w w' : World) : Prop where
  sessions : ∀ i, w'.sessions.get i = w.sessions.get i
  opened : w'.opened = w.opened
  handles : w.handles ≤ w'.handles
  faults : ∀ i, (w'.connections.get i).openFault = (w.connections.get i).openFault
  bearing : ∀ i, (w'.proxies.get i).bearing = (w.proxies.get i).bearing
  grew : Grew (fun call => call.closes = false) w w'

-- A run of a client that has seen some connections, with those that its operations work on and those that
-- they drop. Whether the client closes connections is left open; a run on another session is an act of it.
inductive Lending (frees : Prop) : {α : Type} → Session → List Connection → Routine α → World →
    List Connection → List Connection → Prop where
  | work {α : Type} {s : Session} {seen : List Connection} {a : Action α} {w : World} (k : RawConnection)
      (works : Routine.Works (fun _ => True) (some k) a) : Lending frees s seen (.act .layer a) w [] []
  | client {α : Type} {s : Session} {seen : List Connection} {a : Action α} {w : World}
      (conducts : Conducts w (a.after w)) : Lending frees s seen (.act .client a) w [] []
  | closing {s : Session} {seen : List Connection} {c : Connection} {w : World} (allowed : frees)
      (known : c ∈ seen) : Lending frees s seen (.act .client c.close) w [] []
  | other {α : Type} {s t : Session} {seen given shed : List Connection} {y : Routine α} {w : World}
      (lends : t.source = .pool) (runs : Lending frees t seen y w given shed) :
      Lending frees s seen (.act .client (y.run t)) w given shed
  | next {α β : Type} {s : Session} {seen given shed given' shed' : List Connection} {x : Routine α}
      {k : α → Routine β} {v : α} {w w₁ : World} (first : Lending frees s seen x w given shed)
      (ran : x.run s w = .ok v w₁) (rest : Lending frees s (seen ++ given) (k v) w₁ given' shed') :
      Lending frees s seen (.next x k) w (given ++ given') (shed ++ shed')
  | stopped {α β : Type} {s : Session} {seen given shed : List Connection} {x : Routine α}
      {k : α → Routine β} {f : Failure} {w w₁ : World} (first : Lending frees s seen x w given shed)
      (ran : x.run s w = .error f w₁) : Lending frees s seen (.next x k) w given shed
  | caught {α : Type} {s : Session} {seen given shed : List Connection} {x : Routine α} {w : World}
      (runs : Lending frees s seen x w given shed) : Lending frees s seen (.caught x) w given shed
  | holding {α : Type} {s : Session} {seen given shed : List Connection} {op : Connection → Routine α}
      {c : Connection} {w w₁ : World} (entered : s.entry w = .ok c w₁)
      (runs : Lending frees s (seen ++ [c]) (op c) w₁ given shed) :
      Lending frees s seen (.holding op) w (c :: given) (s.sheds w ++ shed)
  | unheld {α : Type} {s : Session} {seen : List Connection} {op : Connection → Routine α} {f : Failure}
      {w w₁ : World} (refused : s.entry w = .error f w₁) : Lending frees s seen (.holding op) w [] (s.sheds w)
  | write {α : Type} {s : Session} {seen given shed : List Connection} {body : Connection → Routine α}
      {c : Connection} {w w₁ : World} (entered : s.entry w = .ok c w₁)
      (runs : Lending frees s (seen ++ [c]) (body c) w₁ given shed) :
      Lending frees s seen (.write body) w (c :: given) (s.sheds w ++ shed)
  | unwritten {α : Type} {s : Session} {seen : List Connection} {body : Connection → Routine α} {f : Failure}
      {w w₁ : World} (refused : s.entry w = .error f w₁) : Lending frees s seen (.write body) w [] (s.sheds w)
  | scope {α : Type} {s : Session} {seen given shed : List Connection} {op : Connection → Routine α}
      {savepoint : Value} {c : Connection} {name : Option String} {w w₁ w₂ : World}
      (outside : s.inScope w = false) (entered : s.entry w = .ok c w₁)
      (begun : s.begins savepoint c w₁ = .ok name w₂)
      (runs : Lending frees s (seen ++ [c]) (op c) w₂ given shed) :
      Lending frees s seen (.transact op savepoint) w (c :: given) (s.sheds w ++ shed)
  | unbegun {α : Type} {s : Session} {seen : List Connection} {op : Connection → Routine α}
      {savepoint : Value} {c : Connection} {f : Failure} {w w₁ w₂ : World}
      (outside : s.inScope w = false) (entered : s.entry w = .ok c w₁)
      (failed : s.begins savepoint c w₁ = .error f w₂) :
      Lending frees s seen (.transact op savepoint) w [c] (s.sheds w)
  | unscoped {α : Type} {s : Session} {seen : List Connection} {op : Connection → Routine α}
      {savepoint : Value} {f : Failure} {w w₁ : World} (outside : s.inScope w = false)
      (refused : s.entry w = .error f w₁) : Lending frees s seen (.transact op savepoint) w [] (s.sheds w)
  | nested {α : Type} {s : Session} {seen : List Connection} {op : Connection → Routine α}
      {savepoint : Value} {w : World} (inside : s.inScope w = true) :
      Lending frees s seen (.transact op savepoint) w [] []
  | close {s : Session} {seen : List Connection} {w : World} : Lending frees s seen .close w [] []

def Manner.lending : Manner where
  own a := ∀ w, Conducts w (a.after w)
  text _ := True
  closes := True

theorem lending_of_works {held : Option RawConnection} {a : Action α} (works : Routine.Works (fun _ => True) held a) :
    ∃ k, Routine.Works (fun _ => True) (some k) a := by
  cases held with
  | some k => exact ⟨k, works⟩
  | none =>
      refine ⟨⟨0⟩, acting_mono ?_ works⟩
      rintro call ⟨k, absurd, _⟩
      cases absurd

theorem lending_of_keeps {frees : Prop} {x : Routine α} {held : Option RawConnection} (keeps : x.Keeps .lending s held)
    (seen : List Connection) (w : World) : ∃ given shed, Lending frees s seen x w given shed := by
  induction x generalizing held seen w with
  | act party a =>
      cases party with
      | layer =>
          obtain ⟨k, works⟩ := lending_of_works keeps
          exact ⟨_, _, .work k works⟩
      | client => exact ⟨_, _, .client (keeps w)⟩
  | next x k ihx ihk =>
      obtain ⟨given, shed, first⟩ := ihx keeps.1 seen w
      cases ran : x.run s w with
      | ok v w₁ =>
          obtain ⟨given', shed', rest⟩ := ihk v (keeps.2 w v w₁ ran) (seen ++ given) w₁
          exact ⟨_, _, .next first ran rest⟩
      | error f w₁ => exact ⟨_, _, .stopped first ran⟩
  | caught x ih =>
      obtain ⟨given, shed, runs⟩ := ih keeps seen w
      exact ⟨_, _, .caught runs⟩
  | holding op ih =>
      cases entered : s.entry w with
      | ok c w₁ =>
          obtain ⟨given, shed, runs⟩ := ih c (keeps c) (seen ++ [c]) w₁
          exact ⟨_, _, .holding entered runs⟩
      | error f w₁ => exact ⟨_, _, .unheld entered⟩
  | transact op savepoint ih =>
      cases inside : s.inScope w with
      | true => exact ⟨_, _, .nested inside⟩
      | false =>
          cases entered : s.entry w with
          | error f w₁ => exact ⟨_, _, .unscoped inside entered⟩
          | ok c w₁ =>
              cases begun : s.begins savepoint c w₁ with
              | error f w₂ => exact ⟨_, _, .unbegun inside entered begun⟩
              | ok name w₂ =>
                  obtain ⟨given, shed, runs⟩ := ih c (keeps c) (seen ++ [c]) w₂
                  exact ⟨_, _, .scope inside entered begun runs⟩
  | write body ih =>
      cases entered : s.entry w with
      | ok c w₁ =>
          obtain ⟨given, shed, runs⟩ := ih c (keeps c) (seen ++ [c]) w₁
          exact ⟨_, _, .write entered runs⟩
      | error f w₁ => exact ⟨_, _, .unwritten entered⟩
  | close => exact ⟨_, _, .close⟩

end SqlScope
