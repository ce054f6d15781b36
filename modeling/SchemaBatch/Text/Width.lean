import SchemaBatch.Text
import SchemaBatch.Unicode.Emoji
import SchemaBatch.Unicode.Marks
import SchemaBatch.Unicode.Wide

/-!
# `Text.Width` — how many columns a text takes on a terminal

On its own a character takes two columns when it is wide, none when it is drawn over its neighbours
or not at all, and one otherwise. Together, characters may take fewer or more: a selector turns a
character into a pictograph, pictographs are joined to one, and scripts have ligatures. So a text is
read from its end, and what a character adds depends on what follows it.

Contents: `charColumns`, the width of a character on its own; `Context`, `Selector` and `Following`,
what can follow a character; `meet?` and `place`, what the character adds; `Text.columns`, the width
of a line.
-/

namespace SchemaBatch
namespace Text

open Unicode

/-! ## Characters on their own -/

/-- The vowels and final consonants of Hangul syllables that are written in parts. -/
def hangulTails : Ranges := [(0x1160, 0x11FF), (0xD7B0, 0xD7C6), (0xD7CB, 0xD7FB)]

/-- Signs that are drawn over or around the characters after them. -/
def leadingSigns : Ranges :=
  [(0x605, 0x605), (0x70F, 0x70F), (0x890, 0x891), (0x8E2, 0x8E2), (0xD4E, 0xD4E),
    (0xA8FA, 0xA8FA), (0x111C2, 0x111C3), (0x113D1, 0x113D1), (0x1193F, 0x1193F),
    (0x11941, 0x11941), (0x11A84, 0x11A89), (0x11D46, 0x11D46), (0x11F02, 0x11F02)]

/-- The Tifinagh consonant joiner, which is seen unless it joins. -/
def tifinaghJoiner : Nat := 0x2D7F

/-- The filler in the place of the first consonant of a Hangul syllable. -/
def hangulFiller : Nat := 0x115F

/-- The Khmer vowel QAA, an old spelling of two letters. -/
def khmerQaa : Nat := 0x17A4

/-- The Khmer sign BEYYAL, which is drawn like the word it stands for. -/
def khmerBeyyal : Nat := 0x17D8

/-- Whether a character takes no column. -/
def isZeroWidth (c : Char) : Bool :=
  c.toNat != tifinaghJoiner && c.toNat != hangulFiller &&
    (ignorable.has c || extenders.has c || hangulTails.has c || leadingSigns.has c)

/-- Whether a character takes two columns, provided that it takes any. -/
def isWide (c : Char) : Bool :=
  c.toNat == hangulFiller || c.toNat == khmerQaa || wide.has c || reservedPictographs.has c

/-- The columns of a character on its own. -/
def charColumns (c : Char) : Nat :=
  if c.toNat ≤ 0xA0 then 1
  else if c.toNat == khmerBeyyal then 3
  else if isZeroWidth c then 0
  else if isWide c then 2
  else 1

/-! ## Classes of characters that meet -/

/-- The joiner that asks for a ligature or for one pictograph. -/
def zeroWidthJoiner : Nat := 0x200D

/-- Arabic letters of the form of alef. -/
def alefs : Ranges :=
  [(0x622, 0x623), (0x625, 0x625), (0x627, 0x627), (0x671, 0x673), (0x675, 0x675), (0x773, 0x774),
    (0x870, 0x882)]

/-- Arabic letters of the form of lam. -/
def lams : Ranges :=
  [(0x644, 0x644), (0x6B5, 0x6B8), (0x76A, 0x76A), (0x8A6, 0x8A6), (0x8C7, 0x8C7)]

/-- Format characters that interrupt the joining of Arabic letters. -/
def joiningBreaks : Ranges :=
  [(0x600, 0x605), (0x6DD, 0x6DD), (0x890, 0x891), (0x8E2, 0x8E2), (0x180E, 0x180E),
    (0x200C, 0x200D), (0x2066, 0x2069), (0x110BD, 0x110BD), (0x110CD, 0x110CD)]

/-- Khmer letters that are drawn below the letter before them after the sign COENG. -/
def khmerLetters : Ranges :=
  [(0x1780, 0x1782), (0x1784, 0x1787), (0x1789, 0x178C), (0x178E, 0x1793), (0x1795, 0x1798),
    (0x179B, 0x179D), (0x17A0, 0x17A0), (0x17A2, 0x17A2), (0x17A7, 0x17A7), (0x17AB, 0x17AC),
    (0x17AF, 0x17AF)]

/-- Tifinagh consonants. -/
def tifinaghConsonants : Ranges := [(0x2D31, 0x2D65), (0x2D6F, 0x2D6F)]

/-- The letters of which pairs stand for flags. -/
def regionalIndicators : Ranges := [(0x1F1E6, 0x1F1FF)]

/-- The skin tones. -/
def skinTones : Ranges := [(0x1F3FB, 0x1F3FF)]

/-- The letters of the tags behind a black flag. -/
def tagLetters : Ranges := [(0xE0061, 0xE007A)]

/-- The digits of the tags behind a black flag. -/
def tagDigits : Ranges := [(0xE0030, 0xE0039)]

/-- Ignorable marks. They do not keep characters beside them from forming a ligature. -/
def ligatureMarks : Ranges :=
  [(0x34F, 0x34F), (0x17B4, 0x17B5), (0x180B, 0x180D), (0x180F, 0x180F), (0x200D, 0x200D),
    (0xFE00, 0xFE0F), (0xE0100, 0xE01EF)]

/-- Quotation marks that have a full-width form. -/
def quotationMarks : Ranges := [(0x2018, 0x2019), (0x201C, 0x201D)]

/-- Whether a character without a width does not keep Arabic letters beside it from joining. -/
def isJoiningTransparent (c : Char) : Bool :=
  isZeroWidth c && (formats.has c || (extenders.has c && !spacingExtenders.has c)) &&
    !joiningBreaks.has c

/-- Whether a character that is a pictograph by default can be had as plain text of one column.
Ideographs in squares stay wide. -/
def hasTextStyle (c : Char) : Bool :=
  styled.has c && pictographs.has c && !(0x1F200 ≤ c.toNat && c.toNat < 0x1F300)

/-! ## What follows a character -/

/-- The text after a character, as far as the character can form something with it. -/
inductive Context where
  /-- Nothing that it could form something with. -/
  | plain
  /-- An Arabic alef, which joins a lam. -/
  | alef
  /-- A Hebrew lamed, behind a joiner or not. -/
  | lamed (joined : Bool)
  /-- A Buginese YA, behind a joiner or not. -/
  | ya (joined : Bool)
  /-- A Buginese vowel sign I that is joined to a YA. -/
  | joinedYa
  /-- A Tifinagh consonant, behind a zero-width joiner or not. -/
  | tifinagh (joined : Bool)
  /-- A Tifinagh consonant behind the Tifinagh joiner. -/
  | joinedTifinagh
  /-- A Lisu tone letter that combines with another. -/
  | lisuTone
  /-- An Old Turkic I, behind a joiner or not. -/
  | turkicI (joined : Bool)
  /-- A Khmer letter that can stand below another. -/
  | khmerLetter
  /-- A Kirat Rai vowel sign E. -/
  | kiratE
  /-- A Kirat Rai vowel sign AI, or two signs that amount to it. -/
  | kiratAi
  | skinTone
  /-- One regional indicator, or several of them. -/
  | indicators (several : Bool)
  | pictograph
  /-- A pictograph behind a joiner. -/
  | joined
  /-- A pictograph behind a joiner that is behind a keycap. -/
  | joinedKeycap
  /-- A regional indicator that begins no flag, in front of a joiner. -/
  | joinedIndicator
  /-- Flags in front of a joiner. -/
  | joinedFlags
  /-- A regional indicator and flags in front of a joiner. -/
  | joinedOddFlags
  /-- Tag letters that end a flag in front of a joiner. -/
  | letterTags (count : Nat)
  /-- Tag digits in front of such letters. -/
  | digitTags (count : Nat)
  deriving DecidableEq, Repr

/-- A character that chooses a form of the character before it. -/
inductive Selector where
  | pictograph
  | text
  | fullWidth
  deriving DecidableEq, Repr

/-- What follows a character: the selectors that are meant for it, and the text behind them. There
is more than one selector only in front of a part of a ligature. -/
structure Following where
  pictograph : Bool
  text : Bool
  fullWidth : Bool
  context : Context
  deriving DecidableEq, Repr

namespace Context

/-- Whether the context is a part of a ligature. -/
def isLigature : Context → Bool
  | alef | lamed _ | ya _ | joinedYa | tifinagh _ | joinedTifinagh | lisuTone | turkicI _ |
    khmerLetter => true
  | _ => false

/-- Whether a pictograph is waited for that is joined to the one in the context. -/
def awaitsPictograph : Context → Bool
  | joined | joinedKeycap => true
  | _ => false

/-- The context behind a joiner. -/
def join : Context → Context
  | lamed _ => lamed true
  | ya _ => ya true
  | tifinagh _ => tifinagh true
  | turkicI _ => turkicI true
  | context => context

/-- The context that begins with a character. -/
def beginning (c : Char) : Context :=
  if alefs.has c then alef
  else if khmerLetters.has c then khmerLetter
  else if tifinaghConsonants.has c then tifinagh false
  else if regionalIndicators.has c then indicators false
  else if skinTones.has c then skinTone
  else if pictographs.has c then pictograph
  else match c.toNat with
    | 0x5DC => lamed false
    | 0x1A10 => ya false
    | 0xA4FC | 0xA4FD => lisuTone
    | 0x10C03 => turkicI false
    | 0x16D67 => kiratE
    | 0x16D68 => kiratAi
    | _ => plain

end Context

namespace Following

/-- A text without a selector in front of it. -/
def bare (context : Context) : Following := ⟨false, false, false, context⟩

/-- What follows the character in front of a selector: the selector for a pictograph keeps what is
joined to that one, and each selector keeps a part of a ligature. -/
def select (selector : Selector) (f : Following) : Following :=
  let f := if f.context.isLigature then f
    else if selector = .pictograph ∧ f.context.awaitsPictograph then bare f.context
    else bare .plain
  match selector with
  | .pictograph => { f with pictograph := true }
  | .text => { f with text := true }
  | .fullWidth => { f with fullWidth := true }

/-- What follows a character that is no pictograph. The selector for one is spent on it, and what
is not a part of a ligature is cut off. -/
def withoutPictograph (f : Following) : Following :=
  if !f.pictograph then f
  else if f.context.isLigature then { f with pictograph := false }
  else bare .plain

/-- What follows a character that has no form to choose: the first selector behind it is spent. -/
def withoutForm (f : Following) : Following :=
  if f.text then { f with text := false } else { f with fullWidth := false }

end Following

/-- The selector that a character is. -/
def selector? (c : Char) : Option Selector :=
  match c.toNat with
  | 0xFE0F => some .pictograph
  | 0xFE0E => some .text
  | 0xFE01 => some .fullWidth
  | _ => none

/-! ## What a character adds -/

/-- What a joiner, an indicator, a skin tone, a tag or a pictograph in front of a joined pictograph
adds: mostly nothing, as the two become one. -/
def meetJoined? (c : Char) : Option (Int × Context) :=
  if c.toNat == 0x20E3 then some (0, .joinedKeycap)
  else if regionalIndicators.has c then some (1, .joinedIndicator)
  else if skinTones.has c then some (0, .skinTone)
  else if c.toNat == 0xE007F then some (0, .letterTags 0)
  else if pictographs.has c then some (0, .pictograph)
  else none

/-- What a tag in front of tag letters adds, and the black flag that the tags belong to. -/
def meetLetterTags? (count : Nat) (c : Char) : Option (Int × Context) :=
  if tagLetters.has c && count < 6 then some (0, .letterTags (count + 1))
  else if tagDigits.has c && count < 5 then some (0, .digitTags 1)
  else if c.toNat == 0x1F3F4 && 3 ≤ count then some (0, .pictograph)
  else none

/-- What a tag in front of tag digits adds, and the black flag that the tags belong to. -/
def meetDigitTags? (count : Nat) (c : Char) : Option (Int × Context) :=
  if tagDigits.has c && count < 3 then some (0, .digitTags (count + 1))
  else if c.toNat == 0x1F3F4 && count == 3 then some (0, .pictograph)
  else none

/-- The columns that a character adds to a text it forms something with, and the context that the
text is then. -/
def meet? (context : Context) (c : Char) : Option (Int × Context) :=
  match context, c.toNat with
  | .lamed true, 0x5D0 => some (0, .plain)
  | .ya true, 0x1A17 => some (0, .joinedYa)
  | .joinedYa, 0x1A15 => some (0, .plain)
  | .tifinagh _, 0x2D7F => some (1, .joinedTifinagh)
  | .turkicI true, 0x10C32 => some (0, .plain)
  | .khmerLetter, 0x17D2 => some (-1, .plain)
  | .kiratE, 0x16D63 | .kiratE, 0x16D69 | .kiratAi, 0x16D63 => some (0, .plain)
  | .kiratE, 0x16D67 => some (0, .kiratAi)
  | .kiratE, 0x16D68 => some (1, .kiratAi)
  | .skinTone, 0x200D | .indicators true, 0x200D | .pictograph, 0x200D | .joinedFlags, 0x200D |
    .joinedOddFlags, 0x200D => some (0, .joined)
  | .alef, _ =>
    if lams.has c then some (0, .plain)
    else if isJoiningTransparent c then some (0, .alef)
    else none
  | .tifinagh true, _ => if tifinaghConsonants.has c then some (0, .plain) else none
  | .joinedTifinagh, _ => if tifinaghConsonants.has c then some (-1, .plain) else none
  | .lisuTone, n => if 0xA4F8 ≤ n && n ≤ 0xA4FB then some (0, .plain) else none
  | .skinTone, _ => if modifiable.has c then some (0, .pictograph) else none
  | .indicators _, _ => if regionalIndicators.has c then some (1, .indicators true) else none
  | .joined, _ => meetJoined? c
  | .joinedIndicator, _ | .joinedOddFlags, _ =>
    if regionalIndicators.has c then some (-1, .joinedFlags) else none
  | .joinedFlags, _ => if regionalIndicators.has c then some (3, .joinedOddFlags) else none
  | .letterTags count, _ => meetLetterTags? count c
  | .digitTags count, _ => meetDigitTags? count c
  | _, _ => none

/-- The columns that a character adds to the text after it, and what the text is then, when no
selector is meant for the character. -/
def meet (c : Char) (f : Following) : Int × Following :=
  if f.context.isLigature && f.context != .alef && ligatureMarks.has c then
    (0, if c.toNat == zeroWidthJoiner then { f with context := f.context.join } else f)
  else
    let (columns, context) := (if f.fullWidth then none else meet? f.context c).getD
      (charColumns c, Context.beginning c)
    (columns, .bare context)

/-- The columns that a character adds to the text after it, and what the text is then. -/
def place (c : Char) (f : Following) : Int × Following :=
  if f.pictograph && styled.has c then
    (if f.context.awaitsPictograph then 0 else 2, .bare .pictograph)
  else
    let f := f.withoutPictograph
    match selector? c with
    | some selector => (0, f.select selector)
    | none =>
      if f.text && hasTextStyle c then (1, .bare .plain)
      else if !f.text && f.fullWidth && quotationMarks.has c then (2, .bare .plain)
      else meet c f.withoutForm

/-- The columns of a line. -/
def columns (line : Text) : Nat :=
  let total := line.foldr
    (fun c (total : Int × Following) =>
      let (columns, following) := place c total.2
      (total.1 + columns, following))
    (0, .bare .plain)
  total.1.toNat

end Text
end SchemaBatch
