import ConnectorSync.Launch.Descriptor

/-!
# Process names

Names of pods and containers: the short image name, the step, job and attempt, and a random suffix,
made of lower-case letters, digits and hyphens. A name that is too long loses the start of its image
part first; whatever precedes the first letter is dropped.
-/

namespace ConnectorSync.Launch

open Text

def podNameLimit : Nat := 63
def containerNameLimit : Nat := 128
def suffixLength : Nat := 5

/-- What stands after the last slash and before a digest or tag. -/
def shortImageChars (image : List Char) : List Char :=
  let lastSegment := (image.reverse.takeWhile (· ≠ '/')).reverse
  (lastSegment.takeWhile (· ≠ '@')).takeWhile (· ≠ ':')

/-- The image name without registry, path, digest and tag. -/
def shortImageName (image : String) : String :=
  String.ofList (shortImageChars image.toList)

def isLetter (c : Char) : Bool :=
  ('a' ≤ c && c ≤ 'z') || ('A' ≤ c && c ≤ 'Z')

/-- A lower-case letter, digit or hyphen in place of any character. -/
def plainChar (c : Char) : Char :=
  if ('a' ≤ c ∧ c ≤ 'z') ∨ isDigit c ∨ c = '-' then c
  else if 'A' ≤ c ∧ c ≤ 'Z' then c.toLower
  else '-'

def lastChars (n : Nat) (cs : List Char) : List Char :=
  cs.drop (cs.length - n)

/-- The text from its first letter on, or all of it if it has none. -/
def fromFirstLetter (cs : List Char) : List Char :=
  let rest := cs.dropWhile (! isLetter ·)
  if rest.isEmpty then cs else rest

/-- The part of a name after the image: step, job, attempt and suffix. -/
def nameTail (step : Step) (jobId : String) (attempt : Nat) (suffix : String) : List Char :=
  (step.name ++ "-" ++ jobId ++ "-" ++ decimal attempt ++ "-" ++ suffix).toList.map plainChar

/-- A name of at most `limit` characters for a process. -/
def processName (image : String) (step : Step) (jobId : String) (attempt : Nat) (suffix : String)
    (limit : Nat) : String :=
  let imagePart := (shortImageChars image.toList).map plainChar
  let tail := nameTail step jobId attempt suffix
  let excess := imagePart.length + 1 + tail.length - limit
  let name := imagePart.drop excess ++ '-' :: tail
  String.ofList (fromFirstLetter (lastChars limit name))

def Descriptor.processName (d : Descriptor) (suffix : String) (limit : Nat) : String :=
  Launch.processName d.image d.step d.jobId d.attempt suffix limit

end ConnectorSync.Launch
