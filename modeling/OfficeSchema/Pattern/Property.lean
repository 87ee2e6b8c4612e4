import OfficeSchema.Pattern.CharSet
import OfficeSchema.Text.Age
import OfficeSchema.Text.Property
import OfficeSchema.Text.Script

/-!
Sets of characters that patterns name by a property. A property that characters have or lack is
named alone, any other one with a value; categories and scripts may leave out the name of the
property.
-/

namespace OfficeSchema.Pattern.CharSet

open Text

/-- Property names are compared without case, spaces, hyphens, low lines and a leading "is". -/
def normalised (s : List Char) : String :=
  let body := match s with
    | a :: b :: r => if a.toLower == 'i' && b.toLower == 's' then r else s
    | _ => s
  let plain := (body.filter (fun c => c.toNat < 128 && c != ' ' && c != '_' && c != '-')).map
    Char.toLower
  if body.length < s.length && plain == ['c'] then "isc" else String.ofList plain

def ofCategoryName? : String → Option CharSet
  | "any" => some (.compl empty)
  | "ascii" => some (.ranges [⟨0, 0x7F⟩])
  | "assigned" => some (ofCategories Category.all)
  | "cn" | "unassigned" => some (.compl (ofCategories Category.all))
  | "c" | "other" =>
      some (.compl (ofCategories (Category.all.filter
        (fun g => g != .control && g != .format && g != .privateUse))))
  | name => (Category.named? name).map ofCategories

def ofScriptName? (name : String) : Option CharSet :=
  (Script.named? name).map (fun s => .ranges s.ranges)

/-- Characters that are used with a script: its own ones, unless extensions say where those are
used, and those that extensions add. -/
def ofExtendedScript (s : Script) : CharSet :=
  .union (.diff (.ranges s.ranges) (.ranges (Script.extensions.flatMap Extension.ranges)))
    (.ranges s.added)

def graphemeExtendRanges : List Range :=
  [Category.nonspacingMark, .enclosingMark].flatMap Category.ranges ++
    Property.otherGraphemeExtend

def graphemeBase : CharSet :=
  .diff
    (ofCategories (Category.all.filter (fun g => g != .control && g != .format &&
      g != .privateUse && g != .lineSeparator && g != .paragraphSeparator)))
    (.ranges graphemeExtendRanges)

def identifierStartRanges : List Range :=
  (Category.letters ++ [Category.letterNumber]).flatMap Category.ranges ++ Property.otherIdStart

def identifierContinueRanges : List Range :=
  identifierStartRanges ++
    [Category.nonspacingMark, .spacingMark, .decimalNumber, .connectorPunctuation].flatMap
      Category.ranges ++
    Property.otherIdContinue

def inIdentifiers (rs : List Range) : CharSet :=
  .diff (.ranges rs) (.ranges (Property.patternSyntax ++ Property.patternWhiteSpace))

def changesLowercased : CharSet :=
  .diff (.ranges (uppercaseRanges ++ Category.titlecaseLetterRanges))
    (.ranges Property.alwaysUpper)

def changesUppercased : CharSet :=
  .diff (.ranges (lowercaseRanges ++ Category.titlecaseLetterRanges))
    (.ranges Property.alwaysLower)

def changesTitlecased : CharSet :=
  .union (.diff changesUppercased (.ranges Property.onlyUppercased))
    (.ranges Property.onlyTitlecased)

def changesCasefolded : CharSet :=
  .union (.diff changesLowercased (.ranges Property.neverCasefolded))
    (.ranges Property.onlyCasefolded)

def ofPropertyName? : String → Option CharSet
  | "alpha" | "alphabetic" => some (.ranges alphabeticRanges)
  | "lower" | "lowercase" => some (.ranges lowercaseRanges)
  | "upper" | "uppercase" => some (.ranges uppercaseRanges)
  | "cased" => some (.ranges casedRanges)
  | "ci" | "caseignorable" => some (.ranges caseIgnorableRanges)
  | "cwl" | "changeswhenlowercased" => some changesLowercased
  | "cwu" | "changeswhenuppercased" => some changesUppercased
  | "cwt" | "changeswhentitlecased" => some changesTitlecased
  | "cwcf" | "changeswhencasefolded" => some changesCasefolded
  | "cwcm" | "changeswhencasemapped" =>
      some (.union changesLowercased (.union changesUppercased changesTitlecased))
  | "wspace" | "whitespace" | "space" => some (blanks .characters)
  | "ahex" | "asciihexdigit" => ofClassName? "xdigit"
  | "math" => some (.ranges (Category.mathSymbolRanges ++ Property.otherMath))
  | "grext" | "graphemeextend" => some (.ranges graphemeExtendRanges)
  | "grbase" | "graphemebase" => some graphemeBase
  | "ids" | "idstart" => some (inIdentifiers identifierStartRanges)
  | "idc" | "idcontinue" => some (inIdentifiers identifierContinueRanges)
  | "xids" | "xidstart" =>
      some (.diff (inIdentifiers identifierStartRanges) (.ranges Property.unstableStart))
  | "xidc" | "xidcontinue" =>
      some (.diff (inIdentifiers identifierContinueRanges) (.ranges Property.unstableContinue))
  | "oalpha" | "otheralphabetic" =>
      some (.diff (.ranges alphabeticRanges)
        (ofCategories (Category.letters ++ [Category.letterNumber])))
  | "olower" | "otherlowercase" =>
      some (.diff (.ranges lowercaseRanges) (ofCategories [.lowercaseLetter]))
  | "oupper" | "otheruppercase" =>
      some (.diff (.ranges uppercaseRanges) (ofCategories [.uppercaseLetter]))
  | name => (Property.named? name).map (fun p => .ranges p.ranges)

def openSyllables : List Range :=
  (List.range 399).map (fun i => ⟨0xAC00 + 28 * i, 0xAC00 + 28 * i⟩)

def ofClusterBreak? : String → Option CharSet
  | "cn" | "control" =>
      some (.diff
        (.union
          (ofCategories [.lineSeparator, .paragraphSeparator, .control, .format])
          (.diff (.ranges Property.defaultIgnorable) (ofCategories Category.all)))
        (.ranges (Range.readAll ["a d 200c-200d"] ++ Property.prependedMark ++
          graphemeExtendRanges)))
  | "cr" => some (.single '\r')
  | "lf" => some (.single '\n')
  | "ex" | "extend" => some (.ranges (graphemeExtendRanges ++ Property.emojiModifier))
  | "pp" | "prepend" =>
      some (.ranges (Property.prependedMark ++
        Range.readAll ["d4e 111c2-111c3 1193f 11941 11a3a 11a84-11a89 11d46 11f02"]))
  | "sm" | "spacingmark" =>
      some (.diff (.ranges (Category.spacingMarkRanges ++ Range.readAll ["e33 eb3"]))
        (.ranges (graphemeExtendRanges ++ Range.readAll
          ["102b-102c 1038 1062-1064 1067-106d 1083 1087-108c 108f 109a-109c 1a61 1a63-1a64 aa7b",
           "aa7d 11720-11721"])))
  | "l" => some (.ranges (Range.readAll ["1100-115f a960-a97c"]))
  | "v" => some (.ranges (Range.readAll ["1160-11a7 d7b0-d7c6"]))
  | "t" => some (.ranges (Range.readAll ["11a8-11ff d7cb-d7fb"]))
  | "lv" => some (.ranges openSyllables)
  | "lvt" => some (.diff (.ranges (Range.readAll ["ac00-d7a3"])) (.ranges openSyllables))
  | "ri" | "regionalindicator" => some (.ranges Property.regionalIndicator)
  | "zwj" => some (.single '\u200d')
  | _ => none

def wordExtend : CharSet :=
  .diff
    (.ranges (graphemeExtendRanges ++ Category.spacingMarkRanges ++ Property.emojiModifier))
    (.single '\u200d')

def hebrewLetters : CharSet :=
  match ofScriptName? "hebr" with
  | some s => .inter s (ofCategories [.otherLetter])
  | none => empty

def katakana : CharSet :=
  match ofScriptName? "kana" with
  | some s => .union s (.ranges (Range.readAll ["3031-3035 309b-309c 30a0 30fc ff70"]))
  | none => empty

def spacedLetters : CharSet :=
  .diff
    (.ranges (alphabeticRanges ++ Range.readAll
      ["2c2-2c5 2d2-2d7 2de-2df 2e5-2eb 2ed 2ef-2ff 55a-55c 55e 58a 5f3 a708-a716 a720-a721",
       "a789-a78a ab5b"]))
    (.union
      (.ranges (Property.ideographic ++ Range.readAll
        ["e01-e30 e32-e33 e40-e46 e81-e82 e84 e86-e8a e8c-ea3 ea5 ea7-eb0 eb2-eb3 ebd ec0-ec4 ec6",
         "edc-edf 1000-102a 103f 1050-1055 105a-105d 1061 1065-1066 106e-1070 1075-1081 108e",
         "1780-17b3 17d7 17dc 1950-196d 1970-1974 1980-19ab 19b0-19c9 1a20-1a54 1aa7 a9e0-a9e4",
         "a9e6-a9ef a9fa-a9fe aa60-aa76 aa7a aa7e-aaaf aab1 aab5-aab6 aab9-aabd aac0 aac2",
         "aadb-aadd 11700-1171a 11740-11746"]))
      (.union (.union katakana ((ofScriptName? "hira").getD empty))
        (.union wordExtend hebrewLetters)))

def ofWordBreak? : String → Option CharSet
  | "cr" => some (.single '\r')
  | "lf" => some (.single '\n')
  | "nl" | "newline" => some (.ranges (Range.readAll ["b-c 85 2028-2029"]))
  | "dq" | "doublequote" => some (.single '\x22')
  | "sq" | "singlequote" => some (.single '\x27')
  | "extend" => some wordExtend
  | "fo" | "format" =>
      some (.diff (ofCategories [.format])
        (.ranges (Range.readAll ["200b-200d"] ++ graphemeExtendRanges)))
  | "ka" | "katakana" => some katakana
  | "hl" | "hebrewletter" => some hebrewLetters
  | "le" | "aletter" => some spacedLetters
  | "ml" | "midletter" => some (.ranges (Range.readAll ["3a b7 387 55f 5f4 2027 fe13 fe55 ff1a"]))
  | "mn" | "midnum" =>
      some (.ranges (Range.readAll
        ["2c 3b 37e 589 60c-60d 66c 7f8 2044 fe10 fe14 fe50 fe54 ff0c ff1b"]))
  | "mb" | "midnumlet" => some (.ranges (Range.readAll ["2e 2018-2019 2024 fe52 ff07 ff0e"]))
  | "nu" | "numeric" => some (.ranges (⟨0x66B, 0x66B⟩ :: Category.decimalNumberRanges))
  | "ex" | "extendnumlet" =>
      some (.ranges (⟨0x202F, 0x202F⟩ :: Category.connectorPunctuationRanges))
  | "ri" | "regionalindicator" => some (.ranges Property.regionalIndicator)
  | "wsegspace" =>
      some (.ranges (Range.readAll ["20 1680 2000-2006 2008-200a 205f 3000"]))
  | "zwj" => some (.single '\u200d')
  | _ => none

def sentenceExtendRanges : List Range :=
  graphemeExtendRanges ++ Category.spacingMarkRanges ++ [⟨0x200D, 0x200D⟩]

def sentenceLower : CharSet :=
  .diff (.ranges lowercaseRanges)
    (.ranges (Range.readAll ["10d0-10fa 10fd-10ff"] ++ graphemeExtendRanges))

def sentenceUpper : CharSet :=
  .diff (.ranges (uppercaseRanges ++ Category.titlecaseLetterRanges))
    (.ranges (Range.readAll ["1c90-1cba 1cbd-1cbf"]))

def ofSentenceBreak? : String → Option CharSet
  | "cr" => some (.single '\r')
  | "lf" => some (.single '\n')
  | "se" | "sep" => some (.ranges (Range.readAll ["85 2028-2029"]))
  | "sp" => some (.diff (blanks .characters) (.ranges (Range.readAll ["a d 85 2028-2029"])))
  | "ex" | "extend" => some (.ranges sentenceExtendRanges)
  | "fo" | "format" =>
      some (.diff (ofCategories [.format])
        (.ranges (Range.readAll ["200c-200d"] ++ graphemeExtendRanges)))
  | "lo" | "lower" => some sentenceLower
  | "up" | "upper" => some sentenceUpper
  | "le" | "oletter" =>
      some (.diff (.ranges (⟨0x5F3, 0x5F3⟩ :: alphabeticRanges))
        (.union (.union sentenceLower sentenceUpper) (.ranges sentenceExtendRanges)))
  | "nu" | "numeric" => some (.ranges (⟨0x66B, 0x66C⟩ :: Category.decimalNumberRanges))
  | "at" | "aterm" => some (.ranges (Range.readAll ["2e 2024 fe52 ff0e"]))
  | "st" | "sterm" =>
      some (.diff (.ranges Property.sentenceTerminal) (.ranges (Range.readAll ["2e fe52 ff0e"])))
  | "sc" | "scontinue" =>
      some (.ranges (Range.readAll
        ["2c-2d 3a 55d 60c-60d 7f8 1802 1808 2013-2014 3001 fe10-fe11 fe13 fe31-fe32 fe50-fe51",
         "fe55 fe58 fe63 ff0c-ff0d ff1a ff64"]))
  | "cl" | "close" =>
      some (.diff
        (.ranges ([Category.openPunctuation, .closePunctuation, .initialPunctuation,
            .finalPunctuation].flatMap Category.ranges ++ Property.quotationMark ++
          Range.readAll ["275b-2760 2e00-2e01 2e06-2e08 2e0b 1f676-1f678"]))
        (.ranges (Range.readAll ["ff02 ff07"])))
  | _ => none

def named? (name : List Char) : Option CharSet :=
  let n := normalised name
  (ofPropertyName? n).or ((ofCategoryName? n).or (ofScriptName? n))

def valued? (property value : List Char) : Option CharSet :=
  let v := normalised value
  match normalised property with
  | "gc" | "generalcategory" => ofCategoryName? v
  | "sc" | "script" => ofScriptName? v
  | "scx" | "scriptextensions" => (Script.named? v).map ofExtendedScript
  | "age" => (Age.upTo? v).map .ranges
  | "gcb" | "graphemeclusterbreak" => ofClusterBreak? v
  | "wb" | "wordbreak" => ofWordBreak? v
  | "sb" | "sentencebreak" => ofSentenceBreak? v
  | _ => none

end OfficeSchema.Pattern.CharSet
