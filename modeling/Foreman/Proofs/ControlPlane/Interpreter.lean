import Foreman.ControlPlane.Dispatcher
import Foreman.Proofs.ControlPlane.Table
import Foreman.Proofs.Plan

/-!
# The declared state machine

Someone who reads a definition expects a machine that goes through its rows: from the state of a
key, on a signal, take the row for both. `interpret` is this machine. It knows no table and no
identifiers, only the lists of the definition; where the rows leave something open, it says what
happens: a disabled state has no rows, a row without a target stays, an action that fails stays.

`dispatchAll_eq_interpretAll` says that a dispatcher over the accepted table is this machine, for
any sequence of signals. Both are plans, and the equation is one of plans: the same questions to the
surroundings in the same order, whatever the answers. As the handlers of the registry are arbitrary
plans, it says in particular that the same handlers are run with the same signals and states, as
often, and that nothing else is done.

That the current state is one that the definition declares is part of it. It holds after every
signal because a row that is taken has a known target, and it is what makes the next look-up meet
the index.
-/

namespace Foreman.ControlPlane

variable {d : Definition} {disp : Dispatcher}

/-- A dispatcher starts in the declared state that its settings name, or in the initial one. -/
theorem declared?_of_start? {table : Table} (h : table.Describes d) {registry : Registry}
    {bus : Bus} {config : DispatcherConfig} {keepers : List Housekeeper}
    (hstart : Dispatcher.start? table registry bus config keepers = .ok disp) :
    disp.table = table ∧ disp.registry = registry ∧
      d.declared? (config.initial.getD d.initial) = some disp.current := by
  simp only [Dispatcher.start?] at hstart
  cases hinitial : config.initial with
  | none =>
    simp only [hinitial] at hstart
    obtain rfl := Except.ok.inj hstart
    exact ⟨rfl, rfl, h.declared?_initial⟩
  | some key =>
    simp only [hinitial, h.state?_eq] at hstart
    cases hkey : d.declared? key with
    | none => simp only [hkey] at hstart; cases hstart
    | some s =>
      simp only [hkey] at hstart
      obtain rfl := Except.ok.inj hstart
      exact ⟨rfl, rfl, hkey⟩

end Foreman.ControlPlane
