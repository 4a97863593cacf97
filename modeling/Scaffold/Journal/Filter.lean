import Scaffold.Journal.DirectiveReader
import Scaffold.Settings.Config

/-! Filters: which events are written. Of the directives that events by themselves can decide the
one that comes first does, and lets the event through or not. A directive for scopes lets through
what happens inside them in addition. -/

namespace Scaffold.Journal
open Settings

structure Filter where
  general : List Directive := []
  /-- The directives for scopes, no two of them for the same scopes. -/
  inScopes : List Directive := []
  deriving DecidableEq, Repr

namespace Filter

def deciding? (f : Filter) (e : Event) : Option Directive :=
  (f.general.filter (·.concerns e)).foldl (fun best? d =>
    match best? with
    | some best => if best.precedes d then some best else some d
    | none => some d) none

def admits (f : Filter) (e : Event) : Bool :=
  (f.deciding? e).any (·.level.admits e.level)
    || e.scope?.any fun scope => f.inScopes.any fun d => d.reaches scope && d.level.admits e.level

theorem admits_nil (e : Event) : admits {} e = false := by
  cases h : e.scope? <;> simp [admits, deciding?, h]

def addGeneral (f : Filter) (d : Directive) : Filter :=
  { f with general := f.general ++ [d] }

/-- Adds a directive for scopes, in place of one for the same scopes. -/
def addScoped (f : Filter) (d : Directive) : Filter :=
  { f with inScopes := (f.inScopes.filter fun other => !d.sameScopes other) ++ [d] }

/-- Adds a directive. One that events can decide by themselves is for all of a run. -/
def add (f : Filter) (d : Directive) : Filter :=
  if d.isGeneral then f.addGeneral d else f.addScoped d

/-- Adds a directive for scopes, and for all of a run too if events can decide it. -/
def addBoth (f : Filter) (d : Directive) : Filter :=
  let f := if d.isGeneral then f.addGeneral d else f
  if d.isScoped then f.addScoped d else f

def ofDirectives (directives : List Directive) : Filter :=
  directives.foldl addBoth {}

def words (text : String) : List String :=
  (Text.Pieces.split ',' text).filter (!·.isEmpty)

def read? (text : String) : Option Filter :=
  ((words text).mapM Directive.read?).map ofDirectives

def unreadable (text : String) : List String :=
  (words text).filter fun word => (Directive.read? word).isNone

/-- The filter of the directives in a text that can be read; without any, only errors are
written. -/
def ofReadable (text : String) : Filter :=
  match (words text).filterMap Directive.read? with
  | [] => ofDirectives [{ level := .error }]
  | directives => ofDirectives directives

/-- The variable that replaces every other choice of events. -/
def filterVariable : String := "DATAGEN_LOG"

/-- The variable with levels of single topics. -/
def topicsVariable : String := "DATAGEN_LOG_MODULES"

/-- The topics and levels in the text of the variable; what has no level is passed over. -/
def topicsIn (text : String) : List (String × String) :=
  (Text.Pieces.split ',' text).filterMap fun entry =>
    match entry.toList.span (· != '=') with
    | (_, []) => none
    | (topic, _ :: level) =>
      some (String.ofList (Text.Blank.trimChars topic), String.ofList (Text.Blank.trimChars level))

def addTopics (f : Filter) : List (String × String) → Except SettingsFault Filter
  | [] => .ok f
  | (topic, level) :: rest =>
    match Directive.ofSetting? topic level with
    | none => .error .logDirective
    | some d => addTopics (f.add d) rest

structure Choice where
  filter : Filter
  ignored : List String := []

def ofSettings (env : Environment) (settings : Settings.Logging) : Except SettingsFault Choice :=
  if settings.level == "off" then .ok { filter := ofDirectives [{ level := .off }] }
  else
    let topics := settings.modules.entries ++
      ((env.lookup topicsVariable).map topicsIn).getD []
    ((ofReadable settings.level).addTopics topics).map fun filter =>
      { filter := filter, ignored := unreadable settings.level }

/-- The filter of a run: that of the variable if it can be read, or else that of the settings. -/
def choose (env : Environment) (settings : Settings.Logging) : Except SettingsFault Choice :=
  match (env.lookup filterVariable).bind read? with
  | some filter => .ok { filter := filter }
  | none => ofSettings env settings

end Filter
end Scaffold.Journal
