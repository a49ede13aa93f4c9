import Provenance.Simulation.Config
import Provenance.Simulation.Dice
import Provenance.Simulation.Ledger

/-!
The operations of a worker, and how the next one is chosen.
-/

set_option autoImplicit false
set_option relaxedAutoImplicit false

namespace Provenance.Simulation

inductive Op where
  | createObject
  | lookupObject
  | addRelation
  | addProperty
  | listAncestors
  | createBundle
  | addToBundle
  | listBundle
  | deleteBundle
  | reconnect
deriving DecidableEq, Repr

namespace Op

def name : Op → String
  | createObject => "CreateObject"
  | lookupObject => "LookupObject"
  | addRelation => "AddRelation"
  | addProperty => "AddProperty"
  | listAncestors => "ListAncestors"
  | createBundle => "CreateBundle"
  | addToBundle => "AddToBundle"
  | listBundle => "ListBundle"
  | deleteBundle => "DeleteBundle"
  | reconnect => "Reconnect"

/-- A weight in hundredths. -/
def hundredths (n : Nat) : Binary64 := .ofDecimal false n (-2)

/-- The operations that make sense where there are objects, with their weights. -/
def weights (config : Config) (hasBundles : Bool) : List (Op × Binary64) :=
  [(createObject, hundredths 25), (lookupObject, hundredths 20), (addRelation, hundredths 15),
    (addProperty, hundredths 10), (listAncestors, hundredths 10), (createBundle, hundredths 5),
    (reconnect, config.reconnectRate)] ++
  if hasBundles then
    [(addToBundle, hundredths 8), (listBundle, hundredths 5), (deleteBundle, config.deleteRate)]
  else []

/-- The item in whose stretch of the sum of all weights the target lies. -/
def atTarget : Binary64 → List (Op × Binary64) → Op
  | _, [] => createObject
  | _, [(op, _)] => op
  | target, (op, weight) :: rest =>
    if target.le weight then op else atTarget (target.sub weight) rest

def chooseWeighted {σ : Type} (dice : Dice σ) (items : List (Op × Binary64)) (s : σ) : Op × σ :=
  let total := items.foldl (fun sum item ↦ sum.add item.2) .zero
  let (r, s) := dice.fraction s
  (atTarget (r.mul total) items, s)

/-- The next operation. Without objects there is nothing to do but create one. -/
def next {σ : Type} (dice : Dice σ) (config : Config) (ledger : Ledger) (s : σ) : Op × σ :=
  if ledger.objects.isEmpty then (createObject, s)
  else chooseWeighted dice (weights config (!ledger.bundles.isEmpty)) s

end Op

end Provenance.Simulation
