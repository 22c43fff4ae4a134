import SearchQuery.FindOptions.Merge
import SearchQuery.Model.Table
import SearchQuery.Search.Builder

/-!
# Models and bridges

A model takes part in searches through its bridge. The bridge predefines search attributes,
rewrites declarations, and validates and merges what the attributes of a search contribute.

## Shape of rewriting

Rewriting consumes the options of a builder one by one. When it fails, what it has consumed is
gone, so `Rewriting` keeps the builder through a failure.
-/

namespace SearchQuery

/-- A computation on a builder that keeps the builder when it fails. -/
abbrev Rewriting := EStateM Failure Builder Unit

/-- What a model's own bridge does. By default it predefines and rewrites nothing. -/
structure Contract where
  automatic : Options → Except Failure (List Builder) := fun _ => .ok []
  rewrite : Rewriting := pure ()
  validate : Value → Except Failure Unit := FindOptions.validate
  merge : List Value → Except Failure Value := fun maps =>
    (FindOptions.merge {} maps).map FindOptions.toValue
  deriving Inhabited

/-- A model: a table, a class with a bridge of its own, a class without one, or any other value
that somebody tries to search. -/
inductive Model where
  | table (t : Table)
  | custom (name : String) (contract : Contract)
  | bare (name : String)
  | value (v : Value)
  deriving Inhabited

namespace Model

/-- The model as a value. -/
def toValue : Model → Value
  | table t => .model t.model
  | custom name _ => .model name
  | bare name => .model name
  | value v => v

/-- The name of a model that is a class. -/
def className? : Model → Option String
  | table t => some t.model
  | custom name _ => some name
  | bare name => some name
  | value v =>
    match v with
    | .model name => some name
    | _ => none

/-- The table of a table model. -/
def table? : Model → Option Table
  | table t => some t
  | _ => none

end Model

/-- The bridge of a model: that of a table, with the configuration it was made with, or the
model's own. -/
inductive Bridge where
  | relational (t : Table) (config : Config)
  | custom (contract : Contract)
  deriving Inhabited

/-- The bridge of a model. `current` is the configuration of tables that have none of their own,
as only searchable ones may. -/
def bridgeFor (current : Config) : Model → Except Failure Bridge
  | .table t => .ok (.relational t ((if t.searchable then t.config else none).getD current))
  | .custom _ contract => .ok (.custom contract)
  | m => .error (.noBridge m.toValue)

/-- The bridge of a table model with a given configuration. -/
def relationalBridge (config : Config) : Model → Except Failure Bridge
  | .table t => .ok (.relational t config)
  | _ => .error .notMapped

end SearchQuery
