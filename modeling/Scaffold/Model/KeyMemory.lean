import Scaffold.Model.Entity

/-! Questions about the key of an entity. The strategy for the key is found when something about the
key is asked for the first time, and kept; every answer is read off the strategy, and a shape takes
along what is known of it. -/

namespace Scaffold.Model

inductive KeyQuestion
  | strategy
  | count
  | code (qualifier? : Option String)
  | declaration
  | single (rule : String)
  deriving DecidableEq, Repr

abbrev KeyQuestion.Answer : KeyQuestion → Type
  | strategy => KeyStrategy
  | count => Nat
  | code _ => Except KeyFault String
  | declaration => Option String
  | single _ => Except KeyFault Field

def KeyStrategy.answer (entity : String) (s : KeyStrategy) : (q : KeyQuestion) → q.Answer
  | .strategy => s
  | .count => s.count
  | .code qualifier? =>
    match s with
    | .none => .error (.noKeyFields entity)
    | .direct field => .ok field.type
    | .composite typeName _ => .ok (qualify (qualifier?.getD "") typeName)
  | .declaration => s.declaration? entity
  | .single rule =>
    match s with
    | .direct field => .ok field
    | other => .error (.singleKeyRequired entity rule other.count)

/-- The answer of an entity of which nothing is known beforehand. -/
def Entity.answer (e : Entity) : (q : KeyQuestion) → q.Answer
  | .strategy => e.keyStrategy
  | .count => e.keyStrategy.count
  | .code qualifier? => e.keyCode qualifier?
  | .declaration => e.keyDeclaration?
  | .single rule => e.singleKey rule

/-- An entity with its strategy for the key, once that was found. -/
structure KnownEntity where
  entity : Entity
  strategy? : Option KeyStrategy

namespace KnownEntity

def unasked (e : Entity) : KnownEntity :=
  ⟨e, none⟩

/-- The strategy, found now if it was not before. -/
def keyStrategy (k : KnownEntity) : KeyStrategy × KnownEntity :=
  match k.strategy? with
  | some s => (s, k)
  | none => (k.entity.keyStrategy, { k with strategy? := some k.entity.keyStrategy })

def ask (k : KnownEntity) (q : KeyQuestion) : q.Answer × KnownEntity :=
  (k.keyStrategy.1.answer k.entity.name q, k.keyStrategy.2)

def shape (k : KnownEntity) : KnownEntity :=
  { k with entity := k.entity.shape }

inductive Step
  | ask (q : KeyQuestion)
  | shape

def step (k : KnownEntity) : Step → KnownEntity
  | .ask q => (k.ask q).2
  | .shape => k.shape

def after (k : KnownEntity) (steps : List Step) : KnownEntity :=
  steps.foldl step k

end KnownEntity
end Scaffold.Model
