import ClientGen.Text.CharName.AToB
import ClientGen.Text.CharName.CToD
import ClientGen.Text.CharName.EToK
import ClientGen.Text.CharName.LToM
import ClientGen.Text.CharName.NToS
import ClientGen.Text.CharName.Shared
import ClientGen.Text.CharName.TToZ

/-!
# Names of characters

The names by which an escape in a text can call a character. Most of them are listed in an
**outline**, which writes the common beginnings of names only once: `A<B C>(D)[E]` stands for the
names `AB`, `AC`, `A D` and `A-E`. A name that goes on in other names too has a point after it, so
`A.(B)` stands for `A` and `A B`. A group of endings that occurs at several places, alone or
beside others, is written once, among the **shared groups**, and called by its number: `A(#3 B)`
is `A` with the endings of the third group, counted from zero, and with `B`. The outline is laid
out in lines, and a line break in it is a blank.

Three kinds of names follow a rule instead: those that end in the number of the character,
those of the unified ideographs, and those of the Hangul syllables. The last two have to be
written in capitals.
-/

namespace ClientGen.Text.CharName

/-- What is left of a name inside an opening bracket, if the name goes on as the bracket says:
after a blank in `(`, after a hyphen in `[`, with the same word in `<`. -/
def inside? (bracket d : Char) (more : List Char) : Option (List Char) :=
  if d = ' ' then if bracket = '(' then some more else none
  else if d = '-' then if bracket = '[' then some more else none
  else if bracket = '<' then some (d :: more) else none

/-- Whether an outline lists a name. `want` is what is left of the name on the present level
of the outline, `rest` what is left of it after the present word, if the word agrees with it,
and the number counts the open brackets of a part that is skipped. -/
def listed : List Char → Option (List Char) → Nat → List Char → Bool
  | _, rest, _, [] => rest == some []
  | want, rest, 0, c :: cs =>
    if c = ' ' then rest == some [] || listed want (some want) 0 cs
    else if c = '.' then rest == some [] || listed want rest 0 cs
    else if c = ')' || c = ']' || c = '>' then rest == some []
    else if c = '(' || c = '[' || c = '<' then
      match rest with
      | some (d :: more) =>
        match inside? c d more with
        | some left => listed left (some left) 0 cs
        | none => listed want rest 1 cs
      | _ => listed want none 1 cs
    else match rest with
      | some (d :: more) => listed want (if d = c then some more else none) 0 cs
      | _ => listed want none 0 cs
  | want, rest, depth + 1, c :: cs =>
    if c = '(' || c = '[' || c = '<' then listed want rest (depth + 2) cs
    else if c = ')' || c = ']' || c = '>' then listed want rest depth cs
    else listed want rest (depth + 1) cs

/-- A character of an outline, a blank for a line break. -/
def unbroken (c : Char) : Char :=
  if c = '\n' then ' ' else c

/-- An outline with the groups that it calls written out. The number is the one that is being
read, if a group is called. -/
def writtenOut (groups : Array (List Char)) : Option Nat → List Char → List Char
  | none, [] => []
  | none, c :: cs =>
    if c = '#' then writtenOut groups (some 0) cs
    else unbroken c :: writtenOut groups none cs
  | some n, [] => groups.getD n []
  | some n, c :: cs =>
    if c.isDigit then writtenOut groups (some (10 * n + (c.toNat - '0'.toNat))) cs
    else groups.getD n [] ++ unbroken c :: writtenOut groups none cs

/-- The shared groups, written out in order. -/
def groups : Array (List Char) :=
  sharedGroups.foldl (fun before group => before.push (writtenOut before none group.toList)) #[]

/-- The outline that holds the names with a first letter. -/
def outline (c : Char) : String :=
  if c ≤ 'B' then aToB
  else if c ≤ 'D' then cToD
  else if c ≤ 'K' then eToK
  else if c ≤ 'M' then lToM
  else if c ≤ 'S' then nToS
  else tToZ

/-- Whether a name is in one of the outlines. -/
def isListed (name : List Char) : Bool :=
  match name with
  | c :: _ => listed name (some name) 0 (writtenOut groups none (outline c).toList)
  | [] => false

/-- What follows a front in a text. -/
def after? (front : String) (cs : List Char) : Option (List Char) :=
  if front.toList.isPrefixOf cs then some (cs.drop front.length) else none

/-- The number that hexadecimal digits in capitals stand for. -/
def hexNumber? (ds : List Char) : Option Nat :=
  ds.foldlM (fun n c =>
    if c.isDigit then some (16 * n + (c.toNat - '0'.toNat))
    else if 'A' ≤ c && c ≤ 'F' then some (16 * n + (c.toNat - 'A'.toNat + 10))
    else none) 0

/-- The fronts of the names that end in the number of the character, with the intervals of
those numbers. -/
def numbered : List (String × List (Nat × Nat)) :=
  [("CJK COMPATIBILITY IDEOGRAPH-", [(0xF900, 0xFA6D), (0xFA70, 0xFAD9), (0x2F800, 0x2FA1D)]),
   ("KHITAN SMALL SCRIPT CHARACTER-", [(0x18B00, 0x18CD5)]),
   ("NUSHU CHARACTER-", [(0x1B170, 0x1B2FB)])]

/-- Whether a name ends in the number of the character. -/
def isNumbered (name : List Char) : Bool :=
  numbered.any fun (front, intervals) =>
    match (after? front name).bind fun ds => (hexNumber? ds).map (ds.length, ·) with
    | some (length, n) =>
      length = (if n < 0x10000 then 4 else 5) && intervals.any fun i => i.1 ≤ n && n ≤ i.2
    | none => false

/-- The intervals of the unified ideographs. -/
def ideographs : List (Nat × Nat) :=
  [(0x3400, 0x4DBF), (0x4E00, 0x9FFF), (0x20000, 0x2A6DF), (0x2A700, 0x2B738), (0x2B740, 0x2B81D),
   (0x2B820, 0x2CEA1), (0x2CEB0, 0x2EBE0), (0x30000, 0x3134A)]

/-- Whether what follows the front of a unified ideograph is its number, in four or five
digits. -/
def isIdeograph (ds : List Char) : Bool :=
  (ds.length = 4 || ds.length = 5) && (hexNumber? ds).any fun n =>
    ideographs.any fun i => i.1 ≤ n && n ≤ i.2

/-- The names of the consonants that a syllable starts with. -/
def initials : List String :=
  ["G", "GG", "N", "D", "DD", "R", "M", "B", "BB", "S", "SS", "", "J", "JJ", "C", "K", "T", "P",
   "H"]

/-- The names of the vowels of a syllable. -/
def vowels : List String :=
  ["A", "AE", "YA", "YAE", "EO", "E", "YEO", "YE", "O", "WA", "WAE", "OE", "YO", "U", "WEO", "WE",
   "WI", "YU", "EU", "YI", "I"]

/-- The names of the consonants that a syllable ends with. -/
def finals : List String :=
  ["", "G", "GG", "GS", "N", "NJ", "NH", "D", "L", "LG", "LM", "LB", "LS", "LT", "LP", "LH", "M",
   "B", "BS", "S", "SS", "NG", "J", "C", "K", "T", "P", "H"]

/-- Whether a text is the name of a Hangul syllable. -/
def isSyllable (cs : List Char) : Bool :=
  initials.any fun initial => (after? initial cs).any fun rest =>
    vowels.any fun vowel => (after? vowel rest).any fun last =>
      finals.any fun final => final.toList = last

/-- **Whether a text is the name of a character.** -/
def isCharName (name : List Char) : Bool :=
  match after? "HANGUL SYLLABLE " name, after? "CJK UNIFIED IDEOGRAPH-" name with
  | some syllable, _ => isSyllable syllable
  | none, some digits => isIdeograph digits
  | none, none =>
    let capitals := name.map Char.toUpper
    isListed capitals || isNumbered capitals

end ClientGen.Text.CharName
