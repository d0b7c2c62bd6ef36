import Sn360Es.Lib.GoStrings

/-!
# Recurring senders (`internal/service/tier0/recurring.go`)

The detector looks at the local part of the sender. `mail.ParseAddress` is a parameter; the regular
expression of the source is spelled out as the list of its alternatives.
-/

namespace Sn360Es.Tier0

open Lib.GoStrings

/-- A piece of an alternative of `defaultRecurringRegex`. -/
inductive Piece where
  /-- a word, matched without regard to case -/
  | word (w : String)
  /-- `[-_.]?` -/
  | sep
  /-- `s?` -/
  | plural
  /-- `\d*` -/
  | digits
  deriving DecidableEq, Repr

/-- The letters that `(?i)` lets stand for a letter of the pattern: the two cases, and U+017F for `s`. -/
def foldsTo (p c : Char) : Bool := c.toLower = p || (p = 's' && c.val = 0x17F)

/-- `w` is matched at the front; the rest is returned. -/
def dropWord : List Char → List Char → Option (List Char)
  | [], cs => some cs
  | _ :: _, [] => none
  | p :: ps, c :: cs => if foldsTo p c then dropWord ps cs else none

/-- A list of pieces matches the whole text. -/
def matchPieces : List Piece → List Char → Bool
  | [], cs => cs.isEmpty
  | .word w :: ps, cs =>
    match dropWord w.toList cs with
    | some rest => matchPieces ps rest
    | none => false
  | .sep :: ps, cs =>
    matchPieces ps cs ||
      match cs with
      | c :: rest => (c = '-' || c = '_' || c = '.') && matchPieces ps rest
      | [] => false
  | .plural :: ps, cs =>
    matchPieces ps cs ||
      match cs with
      | c :: rest => foldsTo 's' c && matchPieces ps rest
      | [] => false
  | .digits :: ps, cs => matchPieces ps (cs.dropWhile Char.isDigit)

/-- The alternatives of `defaultRecurringRegex`. -/
def recurringPatterns : List (List Piece) :=
  [[.word "no", .sep, .word "reply"], [.word "noreply", .digits],
    [.word "do", .sep, .word "not", .sep, .word "reply"], [.word "mailer", .sep, .word "daemon"],
    [.word "bounce"], [.word "postmaster"], [.word "notification", .plural],
    [.word "alert", .plural], [.word "system"], [.word "automated"],
    [.word "auto", .sep, .word "reply"], [.word "mail", .sep, .word "daemon"],
    [.word "update", .plural], [.word "info"], [.word "support", .sep, .word "bot"], [.word "bot"],
    [.word "team", .sep, .word "bot"]]

/-- `localPartRegex.MatchString` on a local part, which has no `@`: an alternative, then nothing or a `+` and
whatever follows it. -/
def localPartMatches (localPart : String) : Bool :=
  recurringPatterns.any fun ps => matchPieces ps (localPart.toList.takeWhile (· ≠ '+'))

def extraLocals : List String :=
  ["mailer-daemon", "daemon", "bounce", "bounce-no-reply", "postmaster",
    "sender_address_does_not_exist"]

/-- The detector. `parseAddress` stands for `mail.ParseAddress` and gives the bare address, `toLower` for
`strings.ToLower`. -/
structure RecurringDetector where
  parseAddress : String → Option String
  toLower : String → String

/-- What `IsRecurring` does with a parsed address. -/
def RecurringDetector.isRecurringAddress (d : RecurringDetector) (addr : String) : Bool :=
  match beforeFirst '@' addr with
  | some localPart => localPart ≠ "" && (localPartMatches localPart || d.toLower localPart ∈ extraLocals)
  | none => false

/-- `IsRecurring`, where `fuel` bounds how often the text between `<` and `>` is tried again. -/
def RecurringDetector.isRecurringFrom (d : RecurringDetector) : ℕ → String → Bool
  | 0, _ => false
  | fuel + 1, sender =>
    let sender := trimSpace sender
    if sender = "" then false
    else
      match d.parseAddress sender with
      | some addr => d.isRecurringAddress addr
      | none =>
        match (afterFirst '<' sender).bind (beforeFirst '>') with
        | some inner => d.isRecurringFrom fuel inner
        | none => false

/-- `IsRecurring`. The text that is tried again has lost a `<`, so its length is enough fuel. -/
def RecurringDetector.isRecurring (d : RecurringDetector) (sender : String) : Bool :=
  d.isRecurringFrom (sender.length + 1) sender

end Sn360Es.Tier0
