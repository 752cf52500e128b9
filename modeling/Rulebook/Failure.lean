/-!
# Failures

What went wrong below the service: a text, and beneath it the texts of what
caused it, down to the root. Callers are told nothing of it. A log shows the
outermost text; the report at the end of a run shows them all.

## Main definitions

* `Failure`: A chain of texts that is never empty.
* `Failure.under`: The same failure, seen from further out.
* `Failure.full`: The whole chain on one line.
* `Failure.report`: The whole chain, a cause a paragraph.

## Theorems

* `chain_under`: Seen from further out, the chain is longer by one text.
-/

namespace Rulebook

/-- A failure and its causes. -/
structure Failure where
  /-- The outermost text. -/
  text : String
  /-- What is beneath it, the root last. -/
  causes : List String := []
  deriving DecidableEq, Repr

namespace Failure

/-- The texts of a failure, outermost first. -/
def chain (failure : Failure) : List String :=
  failure.text :: failure.causes

/-- A failure in the context of what was being done. -/
def under (failure : Failure) (context : String) : Failure :=
  ⟨context, failure.chain⟩

/-- Seen from further out, the chain is longer by one text. -/
@[simp] theorem chain_under (failure : Failure) (context : String) :
    (failure.under context).chain = context :: failure.chain :=
  rfl

/-- The whole chain on one line. -/
def full (failure : Failure) : String :=
  ": ".intercalate failure.chain

/-- A text whose lines but the first are moved in by some columns. -/
def movedIn (columns : Nat) (text : String) : String :=
  String.ofList (text.toList.flatMap fun c =>
    if c = '\n' then c :: List.replicate columns ' ' else [c])

/-- A paragraph for each of several causes, numbered from the given number. -/
def numbered : Nat → List String → String
  | _, [] => ""
  | n, cause :: rest =>
    let number := toString n
    "\n" ++ String.ofList (List.replicate (5 - number.length) ' ') ++ number ++ ": " ++
      movedIn 7 cause ++ numbered (n + 1) rest

/-- The whole chain, a paragraph for each cause. Several causes are numbered. -/
def report (failure : Failure) : String :=
  failure.text ++
    match failure.causes with
    | [] => ""
    | [cause] => "\n\nCaused by:\n    " ++ movedIn 4 cause
    | causes => "\n\nCaused by:" ++ numbered 0 causes

end Failure
end Rulebook
