/-!
# Tags and the kinds of plain scalars

A tag says what a node stands for. A scalar that is neither quoted nor tagged gets its tag from
its text: the words for truth values and null, numbers in several bases and in base sixty, and
moments in time are told apart here, and anything else is text.
-/

namespace ServiceBlueprint.Markup

inductive Tag where
  | null
  | bool
  | int
  | float
  | binary
  | timestamp
  | orderedMap
  | pairs
  | set
  | text
  | sequence
  | mapping
  | merge
  | standard
  | unknown
  deriving DecidableEq, Repr, Inhabited

namespace Tag

def standardTags : List (String × Tag) :=
  [("null", .null), ("bool", .bool), ("int", .int), ("float", .float), ("binary", .binary),
    ("timestamp", .timestamp), ("omap", .orderedMap), ("pairs", .pairs), ("set", .set),
    ("str", .text), ("seq", .sequence), ("map", .mapping), ("merge", .merge), ("value", .standard)]

def standardName : String := "tag:yaml.org,2002:"

def ofName (name : String) : Tag :=
  ((standardTags.find? fun e => standardName ++ e.1 = name).map (·.2)).getD .unknown

end Tag

def boolWords : List String :=
  ["yes", "Yes", "YES", "no", "No", "NO", "true", "True", "TRUE", "false", "False", "FALSE",
    "on", "On", "ON", "off", "Off", "OFF"]

def nullWords : List String := ["~", "null", "Null", "NULL"]

def infinityWords : List String := [".inf", ".Inf", ".INF"]

def indeterminateWords : List String := [".nan", ".NaN", ".NAN"]

def isDigitOr_ (c : Char) : Bool := c.isDigit || c = '_'

def isHexOr_ (c : Char) : Bool :=
  isDigitOr_ c || ('a' ≤ c && c ≤ 'f') || ('A' ≤ c && c ≤ 'F')

/-- One or more characters, all of a kind. -/
def someOf (p : Char → Bool) (cs : List Char) : Bool :=
  !cs.isEmpty && cs.all p

def dropSign : List Char → List Char
  | '+' :: cs => cs
  | '-' :: cs => cs
  | cs => cs

/-- One or two digits below sixty. -/
def isSixtieth : List Char → Bool
  | [c] => c.isDigit
  | [c, d] => '0' ≤ c && c ≤ '5' && d.isDigit
  | _ => false

/-- A digit and then digits or underscores. -/
def isGrouped : List Char → Bool
  | c :: cs => c.isDigit && cs.all isDigitOr_
  | [] => false

def startsPositive : List Char → Bool
  | c :: _ => '1' ≤ c && c ≤ '9'
  | [] => false

def splitColons (cs : List Char) : List (List Char) :=
  cs.splitOnP (· == ':')

def isIntText (cs : List Char) : Bool :=
  let body := dropSign cs
  match body with
  | '0' :: 'b' :: ds => someOf (fun c => c = '0' || c = '1' || c = '_') ds
  | '0' :: 'x' :: ds => someOf isHexOr_ ds
  | ['0'] => true
  | '0' :: ds => someOf (fun c => ('0' ≤ c && c ≤ '7') || c = '_') ds
  | _ =>
    startsPositive body &&
      match splitColons body with
      | whole :: parts => isGrouped whole && parts.all isSixtieth
      | [] => false

/-- An exponent with its sign, or nothing. -/
def isExponent : List Char → Bool
  | [] => true
  | e :: s :: ds => (e = 'e' || e = 'E') && (s = '+' || s = '-') && someOf Char.isDigit ds
  | _ => false

/-- What may follow the point of a number. -/
def isFraction (cs : List Char) : Bool :=
  isExponent (cs.dropWhile isDigitOr_)

/-- A number in base sixty whose last part has a point. -/
def isSexagesimal (cs : List Char) : Bool :=
  match splitColons (cs.takeWhile (· ≠ '.')) with
  | whole :: p :: parts =>
    isGrouped whole && (p :: parts).all isSixtieth &&
      match cs.dropWhile (· ≠ '.') with
      | '.' :: fraction => fraction.all isDigitOr_
      | _ => false
  | _ => false

def isFloatText (cs : List Char) : Bool :=
  let body := dropSign cs
  let word := String.ofList body
  match cs with
  | '.' :: c :: rest =>
    (c.isDigit && isFraction rest) || indeterminateWords.contains (String.ofList cs) ||
      infinityWords.contains word
  | _ =>
    infinityWords.contains word || isSexagesimal body ||
      (isGrouped (body.takeWhile isDigitOr_) &&
        match body.dropWhile isDigitOr_ with
        | '.' :: rest => isFraction rest
        | _ => false)

/-! ### Moments in time -/

/-- A time of day as written: whole numbers, the digits of a fraction, and the offset. -/
structure WrittenClock where
  hour : Nat
  minute : Nat
  second : Nat
  fraction : List Char
  /-- Hours and minutes, and whether the offset is negative. -/
  offset : Option (Bool × Nat × Nat)
  deriving DecidableEq, Repr

structure WrittenMoment where
  year : Nat
  month : Nat
  day : Nat
  clock : Option WrittenClock
  deriving DecidableEq, Repr

def number (ds : List Char) : Nat :=
  ds.foldl (fun n c => 10 * n + (c.toNat - 48)) 0

/-- A number of at least `least` and at most `most` digits. -/
def takeNumber? (least most : Nat) (cs : List Char) : Option (Nat × List Char) :=
  let ds := (cs.take most).takeWhile Char.isDigit
  if ds.length < least then none else some (number ds, cs.drop ds.length)

def expect? (c : Char) : List Char → Option (List Char)
  | d :: cs => if d = c then some cs else none
  | [] => none

def isSpace (c : Char) : Bool := c = ' ' || c = '\t'

/-- An offset, if there is one; a `Z` stands for none at all. -/
def readOffset? (cs : List Char) : Option (Option (Bool × Nat × Nat)) := do
  if cs.isEmpty then return none
  match cs.dropWhile isSpace with
  | ['Z'] => return some (false, 0, 0)
  | s :: rest =>
    if s ≠ '+' ∧ s ≠ '-' then failure
    let (hours, rest) ← takeNumber? 1 2 rest
    match rest with
    | [] => return some (s = '-', hours, 0)
    | c :: rest =>
      if c ≠ ':' then failure
      let (minutes, rest) ← takeNumber? 2 2 rest
      if rest.isEmpty then return some (s = '-', hours, minutes) else failure
  | [] => failure

def readClock? (cs : List Char) : Option WrittenClock := do
  let (hour, rest) ← takeNumber? 1 2 cs
  let (minute, rest) ← takeNumber? 2 2 (← expect? ':' rest)
  let (second, rest) ← takeNumber? 2 2 (← expect? ':' rest)
  let (fraction, rest) := match rest with
    | '.' :: rest => (rest.takeWhile Char.isDigit, rest.dropWhile Char.isDigit)
    | rest => ([], rest)
  return ⟨hour, minute, second, fraction, ← readOffset? rest⟩

def readMoment? (cs : List Char) : Option WrittenMoment := do
  let (year, rest) ← takeNumber? 4 4 cs
  let (month, rest) ← takeNumber? 1 2 (← expect? '-' rest)
  let (day, rest) ← takeNumber? 1 2 (← expect? '-' rest)
  match rest with
  | [] => return ⟨year, month, day, none⟩
  | c :: after =>
    if c = 'T' ∨ c = 't' then return ⟨year, month, day, some (← readClock? after)⟩
    if isSpace c then return ⟨year, month, day, some (← readClock? (rest.dropWhile isSpace))⟩
    failure

/-- Without a time of day, month and day have to have two digits. -/
def isMomentText (cs : List Char) : Bool :=
  (readMoment? cs).any fun m => m.clock.isSome || cs.length = 10

/-- A line feed at the end does not count. -/
def dropFinalBreak (cs : List Char) : List Char :=
  if cs.getLast? = some '\n' then cs.dropLast else cs

def Tag.ofPlain (text : String) : Tag :=
  if text = "" then .null
  else
    let cs := dropFinalBreak text.toList
    let word := String.ofList cs
    if boolWords.contains word then .bool
    else if isFloatText cs then .float
    else if isIntText cs then .int
    else if nullWords.contains word then .null
    else if isMomentText cs then .timestamp
    else if word = "<<" then .merge
    else if word = "=" then .standard
    else .text

end ServiceBlueprint.Markup
