import Phrasebook.Text.Emoji

/-! The width of text on a terminal, in columns. The parts of an emoji and the letters of a ligature
take less room together than apart, so what a character adds hangs on what follows it. -/
namespace Phrasebook.Text

/-- Vowels and final consonants of Hangul, signs over the digits that follow them, and letters that
are drawn over the next one. -/
def drawnOver : List (Nat × Nat) := [
  (0x0605, 0x0605), (0x070f, 0x070f), (0x0890, 0x0891), (0x08e2, 0x08e2), (0x0d4e, 0x0d4e),
  (0x1160, 0x11ff), (0xa8fa, 0xa8fa), (0xd7b0, 0xd7c6), (0xd7cb, 0xd7fb), (0x111c2, 0x111c3),
  (0x113d1, 0x113d1), (0x1193f, 0x1193f), (0x11941, 0x11941), (0x11a3a, 0x11a3a),
  (0x11a84, 0x11a89), (0x11d46, 0x11d46), (0x11f02, 0x11f02)]

/-- Characters without a width of their own that Arabic letters do not join across. -/
def joinBreaking : List (Nat × Nat) := [
  (0x0605, 0x0605), (0x0890, 0x0891), (0x08e2, 0x08e2), (0x09be, 0x09be), (0x09d7, 0x09d7),
  (0x0b3e, 0x0b3e), (0x0b57, 0x0b57), (0x0bbe, 0x0bbe), (0x0bd7, 0x0bd7), (0x0cc0, 0x0cc0),
  (0x0cc2, 0x0cc2), (0x0cc7, 0x0cc8), (0x0cca, 0x0ccb), (0x0cd5, 0x0cd6), (0x0d3e, 0x0d3e),
  (0x0d4e, 0x0d4e), (0x0d57, 0x0d57), (0x0dcf, 0x0dcf), (0x0ddf, 0x0ddf), (0x1160, 0x11ff),
  (0x1715, 0x1715), (0x1734, 0x1734), (0x180e, 0x180e), (0x1b35, 0x1b35), (0x1b3b, 0x1b3b),
  (0x1b3d, 0x1b3d), (0x1b43, 0x1b44), (0x1baa, 0x1baa), (0x1bf2, 0x1bf3), (0x200c, 0x200d),
  (0x2065, 0x2069), (0x302e, 0x302f), (0x3164, 0x3164), (0xa8fa, 0xa8fa), (0xa953, 0xa953),
  (0xa9c0, 0xa9c0), (0xd7b0, 0xd7c6), (0xd7cb, 0xd7fb), (0xff9e, 0xffa0), (0xfff0, 0xfff8),
  (0x111c0, 0x111c0), (0x111c2, 0x111c3), (0x11235, 0x11235), (0x1133e, 0x1133e),
  (0x1134d, 0x1134d), (0x11357, 0x11357), (0x113b8, 0x113b8), (0x113c2, 0x113c2),
  (0x113c5, 0x113c5), (0x113c7, 0x113c9), (0x113cf, 0x113cf), (0x113d1, 0x113d1),
  (0x114b0, 0x114b0), (0x114bd, 0x114bd), (0x115af, 0x115af), (0x116b6, 0x116b6),
  (0x11930, 0x11930), (0x1193d, 0x1193d), (0x1193f, 0x1193f), (0x11941, 0x11941),
  (0x11a3a, 0x11a3a), (0x11a84, 0x11a89), (0x11d46, 0x11d46), (0x11f02, 0x11f02),
  (0x11f41, 0x11f41), (0x16ff0, 0x16ff1), (0x1d165, 0x1d166), (0x1d16d, 0x1d172),
  (0xe0000, 0xe0000), (0xe0002, 0xe001f), (0xe0080, 0xe00ff), (0xe01f0, 0xe0fff)]

/-- The filler of a missing first consonant of Hangul takes the room of one. -/
def choseongFiller : Char := '\u115f'

/-- The joiner of two consonants in Tifinagh, which shows where it joins none. -/
def tifinaghJoiner : Char := '\u2d7f'

def joiner : Char := '\u200d'

/-- A character that takes no room of its own. -/
def isZeroWidth (c : Char) : Bool :=
  c != choseongFiller && c != tifinaghJoiner &&
    (isWithin graphemeExtend c || isWithin defaultIgnorable c || isWithin drawnOver c)

/-- The columns that a character takes by itself. -/
def charWidth (c : Char) : Nat :=
  if c.toNat ≤ 0xa0 then 1
  else if c = '\u17a4' then 2
  else if c = '\u17d8' then 3
  else if isZeroWidth c then 0
  else if isWithin eastAsianWide c then 2
  else 1

/-- A mark that is not shown, which may stand between the letters of a ligature. -/
def isHiddenMark (c : Char) : Bool :=
  isWithin [(0x034f, 0x034f), (0x17b4, 0x17b5), (0x180b, 0x180d), (0x180f, 0x180f),
    (0xfe00, 0xfe0f), (0xe0100, 0xe01ef)] c

/-- A mark that Arabic letters join across. -/
def isTransparent (c : Char) : Bool :=
  charWidth c = 0 && !isWithin joinBreaking c

/-- The Arabic letters of the shape lam. -/
def isLam (c : Char) : Bool :=
  isWithin [(0x0644, 0x0644), (0x06b5, 0x06b8), (0x076a, 0x076a), (0x08a6, 0x08a6),
    (0x08c7, 0x08c7)] c

/-- The Arabic letters of the shape alef. -/
def isAlef (c : Char) : Bool :=
  isWithin [(0x0622, 0x0623), (0x0625, 0x0625), (0x0627, 0x0627), (0x0671, 0x0673),
    (0x0675, 0x0675), (0x0773, 0x0774), (0x0870, 0x0882)] c

def isTifinagh (c : Char) : Bool :=
  isWithin [(0x2d31, 0x2d65), (0x2d6f, 0x2d6f)] c

/-- The Khmer letters that have a form below another letter. -/
def isSubscriptable (c : Char) : Bool :=
  isWithin [(0x1780, 0x1782), (0x1784, 0x1787), (0x1789, 0x178c), (0x178e, 0x1793),
    (0x1795, 0x1798), (0x179b, 0x179d), (0x17a0, 0x17a0), (0x17a2, 0x17a2), (0x17a7, 0x17a7),
    (0x17ab, 0x17ac), (0x17af, 0x17af)] c

/-- Quotation marks that a selector makes wide. -/
def isQuotationMark (c : Char) : Bool :=
  isWithin [(0x2018, 0x2019), (0x201c, 0x201d)] c

/-- What ends a ligature that neither a joiner nor a hidden mark breaks. -/
inductive LigatureEnd where
  | hebrewLamed
  | khmerLetter
  | lisuTone
  | turkicI
  | bugineseYa
  /-- The Buginese vowel sign i, a joiner and the letter ya. -/
  | bugineseVowelYa
  | tifinagh
  /-- The Tifinagh joiner and a consonant. -/
  | tifinaghJoined
deriving DecidableEq, Repr

/-- What follows a character, as far as its width hangs on it. -/
inductive Follower where
  | other
  | lineFeed
  | emoji
  /-- A skin tone. -/
  | modifier
  /-- Letters of flags, one or several. -/
  | regional (several : Bool)
  /-- A joiner and an emoji; so are the next ones, after what they name. -/
  | joined
  | joinedKeycap
  | joinedRegional
  | joinedRegionals (even : Bool)
  /-- Tags of a flag: a number of letters and the end of the tags. -/
  | joinedLetters (count : Nat)
  /-- Tags of a flag: a number of digits, letters and the end of the tags. -/
  | joinedDigits (count : Nat)
  /-- The vowel signs e and ai of Kirat Rai. -/
  | vowelE
  | vowelAi
  | alef
  /-- The end of a ligature, perhaps with a joiner before it. -/
  | ligature (ending : LigatureEnd) (joined : Bool)
deriving DecidableEq, Repr

/-- A variation selector. -/
inductive Selector where
  | none
  | text
  | emoji
  | wide
deriving DecidableEq, Repr

/-- What follows a character: a selector, and what stands after it. -/
structure Ahead where
  follower : Follower := .other
  selector : Selector := .none
deriving DecidableEq, Repr

namespace Follower

def isLigature : Follower → Bool
  | alef | ligature _ _ => true
  | _ => false

/-- A character that joins with what follows it: the columns that it adds, and what then follows. -/
def join? (c : Char) : Follower → Option (Int × Follower)
  | other | lineFeed => none
  | emoji => if c = joiner then some (0, joined) else none
  | modifier =>
    if isWithin modifierBase c then some (0, emoji)
    else if c = joiner then some (0, joined)
    else none
  | regional several =>
    if isRegional c then some (1, regional true)
    else if several && c = joiner then some (0, joined)
    else none
  | joined =>
    if c = '\u20e3' then some (0, joinedKeycap)
    else if isRegional c then some (1, joinedRegional)
    else if isModifier c then some (0, modifier)
    else if c.toNat = 0xe007f then some (0, joinedLetters 0)
    else if isWithin emojiPresentation c then some (0, emoji)
    else none
  | joinedKeycap => none
  | joinedRegional => if isRegional c then some (-1, joinedRegionals true) else none
  | joinedRegionals even =>
    if isRegional c then some (if even then 3 else -1, joinedRegionals !even)
    else if c = joiner then some (0, joined)
    else none
  | joinedLetters count =>
    if isTagLetter c && count < 6 then some (0, joinedLetters (count + 1))
    else if isTagDigit c && count < 5 then some (0, joinedDigits 1)
    else if c.toNat = 0x1f3f4 && 3 ≤ count then some (0, emoji)
    else none
  | joinedDigits count =>
    if isTagDigit c && count < 3 then some (0, joinedDigits (count + 1))
    else if c.toNat = 0x1f3f4 && count = 3 then some (0, emoji)
    else none
  | vowelE =>
    if c.toNat = 0x16d63 || c.toNat = 0x16d69 then some (0, other)
    else if c.toNat = 0x16d67 then some (0, vowelAi)
    else none
  | vowelAi => if c.toNat = 0x16d63 then some (0, other) else none
  | alef =>
    if isLam c then some (0, other)
    else if isTransparent c then some (0, alef)
    else none
  | ligature ending isJoined =>
    if c = joiner then some (0, ligature ending true)
    else if isHiddenMark c then some (0, ligature ending isJoined)
    else
      match ending with
      | .hebrewLamed => if isJoined && c = '\u05d0' then some (0, other) else none
      | .khmerLetter => if c = '\u17d2' then some (-1, other) else none
      | .lisuTone => if isWithin [(0xa4f8, 0xa4fb)] c then some (0, other) else none
      | .turkicI => if isJoined && c.toNat = 0x10c32 then some (0, other) else none
      | .bugineseYa =>
        if isJoined && c = '\u1a17' then some (0, ligature .bugineseVowelYa false) else none
      | .bugineseVowelYa => if c = '\u1a15' then some (0, other) else none
      | .tifinagh =>
        if c = tifinaghJoiner then some (1, ligature .tifinaghJoined false)
        else if isJoined && isTifinagh c then some (0, other)
        else none
      | .tifinaghJoined => if isTifinagh c then some (-1, other) else none

/-- What a character is to those before it. -/
def ofChar (c : Char) : Follower :=
  if isRegional c then regional false
  else if isModifier c then modifier
  else if isWithin emojiPresentation c then emoji
  else if isAlef c then alef
  else if c = '\u05dc' then ligature .hebrewLamed false
  else if isSubscriptable c then ligature .khmerLetter false
  else if c = '\u1a10' then ligature .bugineseYa false
  else if isTifinagh c then ligature .tifinagh false
  else if isWithin [(0xa4fc, 0xa4fd)] c then ligature .lisuTone false
  else if c.toNat = 0x10c03 then ligature .turkicI false
  else if c.toNat = 0x16d67 then vowelE
  else if c.toNat = 0x16d68 then vowelAi
  else other

end Follower

namespace Ahead

/-- What is ahead of a selector's place when the selector does not count. -/
def unselected (a : Ahead) : Ahead :=
  if a.selector = .none then a
  else if a.follower.isLigature then { a with selector := .none }
  else {}

/-- What is ahead before a selector. The emoji selector may stand before a joiner or a keycap. -/
def select (s : Selector) (a : Ahead) : Ahead :=
  let kept := a.follower.isLigature ||
    (s = .emoji && (a.follower = .joined || a.follower = .joinedKeycap))
  ⟨if kept then a.follower else .other, s⟩

/-- The columns that a character beyond the basic ones adds, and what is ahead before it. -/
def consWide (c : Char) (a : Ahead) : Int × Ahead :=
  if c = '\ufe0f' then (0, a.select .emoji)
  else if c = '\ufe0e' then (0, a.select .text)
  else if c = '\ufe01' then (0, a.select .wide)
  else if a.selector = .text && isNarrowAsText c then (1, {})
  else if a.selector = .wide && isQuotationMark c then (2, {})
  else
    match a.unselected.follower.join? c with
    | some (columns, follower) => (columns, { follower })
    | none => (charWidth c, { follower := .ofChar c })

/-- The columns that a character adds, and what is ahead before it. -/
def cons (c : Char) (a : Ahead) : Int × Ahead :=
  if a.selector = .emoji && takesSelector c then
    let isJoined := a.follower = .joined || a.follower = .joinedKeycap
    (if isJoined then 0 else 2, { follower := .emoji })
  else if c = '\n' then (1, { follower := .lineFeed })
  else if c = '\r' && a.follower = .lineFeed then (0, {})
  else if c.toNat ≤ 0xa0 then (1, {})
  else (if a.selector = .emoji then a.unselected else a).consWide c

end Ahead

/-- The number of columns that a text takes. -/
def width (s : String) : Nat :=
  let (columns, _) := s.toList.foldr (fun c (columns, a) =>
    let (added, a) := a.cons c
    (columns + added, a)) ((0 : Int), ({} : Ahead))
  columns.toNat

end Phrasebook.Text
