import KernelSymbols.Text.Utf8

set_option autoImplicit false

namespace KernelSymbols.Text

def isBreak (c : Char) : Bool := c = '\t' || c = '\n' || c = '\x0c' || c = '\r'

def isVisible (c : Char) : Bool := isBreak c || (0x20 ≤ c.toNat && c.toNat ≠ 0x7F)

inductive Sequence
  | outside
  | escape
  | escapeIntermediate
  | control
  -- The three phases of a device control string before its body.
  | deviceEntry
  | deviceParameter
  | deviceIntermediate
  | body
  | systemCommand
deriving DecidableEq, Repr

namespace Sequence

def isIntermediate (c : Char) : Bool := 0x20 ≤ c.toNat && c.toNat < 0x30

def isParameter (c : Char) : Bool := 0x30 ≤ c.toNat && c.toNat < 0x40

def isFinal (c : Char) : Bool := 0x40 ≤ c.toNat && c.toNat < 0x7F

def isPrivate (c : Char) : Bool := 0x3C ≤ c.toNat && c.toNat < 0x40

def holdsTerminator (c : Char) : Bool := (Utf8.encodeChar c).contains 0x9C

def afterEscape (c : Char) : Sequence :=
  if c = '[' then .control
  else if c = ']' then .systemCommand
  else if c = 'P' then .deviceEntry
  else if c = 'X' || c = '^' || c = '_' then .body
  else if isIntermediate c then .escapeIntermediate
  else if isParameter c || isFinal c then .outside
  else .escape

/-- Reads on. An escape character begins a new sequence wherever it stands, and the characters CAN
and SUB end any. -/
def next (sequence : Sequence) (c : Char) : Sequence :=
  if c = '\x1b' then .escape
  else if c = '\x18' || c = '\x1a' then .outside
  else match sequence with
    | .outside => .outside
    | .escape => afterEscape c
    | .escapeIntermediate =>
        if isParameter c || isFinal c then .outside else .escapeIntermediate
    | .control => if isFinal c then .outside else .control
    | .deviceEntry =>
        if isFinal c then .body
        else if isIntermediate c then .deviceIntermediate
        else if isParameter c then .deviceParameter
        else .deviceEntry
    | .deviceParameter =>
        if isFinal c || isPrivate c then .body
        else if isIntermediate c then .deviceIntermediate
        else .deviceParameter
    | .deviceIntermediate =>
        if isFinal c || isParameter c then .body else .deviceIntermediate
    | .body => if holdsTerminator c then .outside else .body
    | .systemCommand => if c = '\x07' then .outside else .systemCommand

def shows : Sequence → Char → Bool
  | .outside, c => isVisible c
  | .escape, c | .escapeIntermediate, c | .control, c => isBreak c
  | _, _ => false

end Sequence

def plainFrom (sequence : Sequence) : Text → Text
  | [] => []
  | c :: rest =>
      if sequence.shows c then c :: plainFrom .outside rest
      else plainFrom (sequence.next c) rest

def plain (text : Text) : Text := plainFrom .outside text

/-- While characters are being shown, the sequence is the one to go on with, or `outside`. -/
def printedFrom (showing : Bool) (sequence : Sequence) : Text → Text
  | [] => []
  | c :: rest =>
      if (bif showing then Sequence.outside else sequence).shows c then
        c :: printedFrom true (if c.toNat < 0x80 then sequence else .outside) rest
      else printedFrom false (sequence.next c) rest

def printed (text : Text) : Text := printedFrom false .outside text

end KernelSymbols.Text
