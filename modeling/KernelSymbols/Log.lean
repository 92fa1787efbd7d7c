import KernelSymbols.Text.Basic

set_option autoImplicit false

namespace KernelSymbols.Log

inductive Level
  | off
  | error
  | warn
  | info
  | debug
  | trace
deriving DecidableEq, Repr

namespace Level

def all : List Level := [.off, .error, .warn, .info, .debug, .trace]

def name : Level → Text
  | .off => "off".toList
  | .error => "error".toList
  | .warn => "warn".toList
  | .info => "info".toList
  | .debug => "debug".toList
  | .trace => "trace".toList

def rank : Level → Nat
  | .off => 0
  | .error => 1
  | .warn => 2
  | .info => 3
  | .debug => 4
  | .trace => 5

def named? (text : Text) : Option Level := all.find? fun l => l.name = text.map Char.toLower

def numbered? (digits : Text) : Option Level :=
  if digits ≠ [] ∧ digits.all Char.isDigit then all[Nat.ofDigitChars 10 digits 0]? else none

def ofText? (text : Text) : Option Level := (numbered? text).or (named? text)

/-- What stands after a target: nothing lets everything through, a number may have a plus sign. -/
def ofSuffix? : Text → Option Level
  | [] => some .trace
  | '+' :: digits => numbered? digits
  | text => ofText? text

end Level

structure Event where
  level : Level
  target : Text
  message : Text
deriving DecidableEq, Repr

def Event.line (event : Event) : Text :=
  event.level.name.map Char.toUpper ++ ' ' :: event.target ++ ": ".toList ++ event.message

structure Rule where
  target : Text
  level : Level
deriving DecidableEq, Repr

inductive RuleError
  | malformed
  | level
deriving DecidableEq, Repr

def RuleError.message : RuleError → Text
  | .malformed => "invalid filter directive".toList
  | .level =>
      "error parsing level filter: expected one of \"off\", \"error\", \"warn\", ".toList ++
        "\"info\", \"debug\", \"trace\", or a number 0-5".toList

namespace Rule

/-- Beyond ASCII every character counts as a letter. -/
def begins (c : Char) : Bool :=
  c.isAlphanum || c = '-' || c = ':' || c = '_' || decide (0x80 ≤ c.toNat)

def ofItem (item : Text) : Except RuleError Rule :=
  if !item.head?.any begins then .error .malformed
  else
    match Text.cut? '=' item with
    | some (target, suffix) =>
        match Level.ofSuffix? suffix with
        | some level => .ok ⟨target, level⟩
        | none => .error .level
    | none =>
        match Level.ofText? item with
        | some level => .ok ⟨[], level⟩
        | none => .ok ⟨item, .trace⟩

def appliesTo (rule : Rule) (target : Text) : Bool := rule.target.isPrefixOf target

def prefer (best : Option Rule) (rule : Rule) : Option Rule :=
  match best with
  | some other => if rule.target.length < other.target.length then some other else some rule
  | none => some rule

end Rule

structure Filter where
  rules : List Rule
deriving DecidableEq, Repr

namespace Filter

def items (text : Text) : List Text :=
  (Text.pieces ',' text).filter fun item => !item.isEmpty

def ofRules : List Rule → Filter
  | [] => ⟨[⟨[], .error⟩]⟩
  | rules => ⟨rules⟩

def ofText? (text : Text) : Option Filter :=
  match (items text).mapM Rule.ofItem with
  | .ok rules => some (ofRules rules)
  | .error _ => none

def ofText (text : Text) : Filter :=
  ofRules ((items text).filterMap fun item => (Rule.ofItem item).toOption)

def complaint? (item : Text) : Option Text :=
  match Rule.ofItem item with
  | .ok _ => none
  | .error error => some ("ignoring `".toList ++ item ++ "`: ".toList ++ error.message)

def complaints (text : Text) : List Text := (items text).filterMap complaint?

/-- A filter from outside counts if it can be read as a whole. -/
def choose (given : Option Text) (level : Text) : Filter × List Text :=
  match given.bind ofText? with
  | some filter => (filter, [])
  | none => (ofText level, complaints level)

def rule? (filter : Filter) (target : Text) : Option Rule :=
  (filter.rules.filter fun rule => rule.appliesTo target).foldl Rule.prefer none

def allows (filter : Filter) (event : Event) : Bool :=
  match filter.rule? event.target with
  | some rule => decide (event.level.rank ≤ rule.level.rank)
  | none => false

end Filter

end KernelSymbols.Log
