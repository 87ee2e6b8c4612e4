import OfficeSchema.Listing.Basic

namespace OfficeSchema.Listing

namespace Wordprocessing

def words (base : String) (values : List String) : TypeEntry :=
  { TypeEntry.of base with enumeration := values }

def single (kind : String) : ContentEntry := .leaf kind 1 1 none

def optional (kind : String) : ContentEntry := .leaf kind 0 1 none

def any (kind : String) : ContentEntry := .leaf kind 0 0 none

def several (kind : String) : ContentEntry := .leaf kind 1 0 none

def sequence (members : List ContentEntry) : ContentEntry := .group "sequence" 1 1 members

def mixture (kinds : List String) : ContentEntry := .group "choice" 0 0 (kinds.map single)

def attr (name type : String) : AttributeEntry := ⟨name, type, false, none⟩

def needed (name type : String) : AttributeEntry := ⟨name, type, true, none⟩

def composite (name : String) (content : List ContentEntry) : ElementEntry :=
  ⟨name, none, none, some (sequence content), none, [], []⟩

def leaf (name : String) (attributes : List AttributeEntry) : ElementEntry :=
  ⟨name, some "leafEmpty", none, none, none, attributes, []⟩

def everywhere (r : RuleEntry) : ConstraintEntry := ⟨r, .all⟩

def inWord (r : RuleEntry) : ConstraintEntry := ⟨r, .word⟩

def types : List (String × TypeEntry) :=
  [("ST_Conformance", words "token" ["transitional", "strict"]),
    ("ST_HexColor", { TypeEntry.of "token" with pattern := "[0-9A-Fa-f]\x7b6\x7d|auto" }),
    ("ST_LongHexNumber", { TypeEntry.of "hexBinary" with length := some 4 }),
    ("ST_TwipsMeasure", .of "unsignedInt"),
    ("ST_HpsMeasure",
      { TypeEntry.of "unsignedInt" with minInclusive := "1", maxInclusive := "3276" }),
    ("ST_DecimalNumber", .of "integer"),
    ("ST_String", { TypeEntry.of "string" with maxLength := some 253 }),
    ("ST_Jc", words "token" ["start", "center", "end", "both", "distribute", "left", "right"]),
    ("ST_LineSpacingRule", words "token" ["auto", "exact", "atLeast"]),
    ("ST_BrType", words "token" ["page", "column", "textWrapping"]),
    ("ST_PageOrientation", words "token" ["portrait", "landscape"]),
    ("ST_Space", words "token" ["default", "preserve"]),
    ("ST_RelationshipId", { TypeEntry.of "string" with minLength := some 1 }),
    ("ST_Ligatures",
      { words "token" ["none", "standard", "contextual", "historical", "discretional", "all"] with
        isList := true })]

def blocks : List ElementEntry :=
  [{ composite "w:document" [optional "w:background", optional "w:body"] with
      attributes := [attr "w:conformance" "ST_Conformance"] },
    leaf "w:background" [attr "w:color" "ST_HexColor"],
    composite "w:body" [mixture ["w:p", "w:tbl"], optional "w:sectPr"],
    { composite "w:p"
        [optional "w:pPr", mixture ["w:r", "w:hyperlink", "w:bookmarkStart", "w:bookmarkEnd"]] with
      attributes :=
        [attr "w:rsidR" "ST_LongHexNumber",
          { attr "w14:paraId" "ST_LongHexNumber" with since := Version.office2010 }]
      constraints := [inWord (.unique "w14:paraId" true)] },
    composite "w:pPr"
      [optional "w:pStyle", optional "w:keepNext", optional "w:spacing", optional "w:jc"],
    leaf "w:pStyle" [needed "w:val" "ST_String"],
    leaf "w:keepNext" [attr "w:val" "onOff"],
    { leaf "w:spacing"
        [attr "w:before" "ST_TwipsMeasure", attr "w:after" "ST_TwipsMeasure",
          attr "w:line" "ST_DecimalNumber", attr "w:lineRule" "ST_LineSpacingRule"] with
      constraints := [everywhere (.conditional "w:line" "w:lineRule" ["exact", "atLeast"])] },
    leaf "w:jc" [needed "w:val" "ST_Jc"]]

def runs : List ElementEntry :=
  [{ composite "w:r" [optional "w:rPr", mixture ["w:t", "w:br", "w:tab"]] with
      attributes := [attr "w:rsidR" "ST_LongHexNumber"] },
    composite "w:rPr"
      [optional "w:b", optional "w:i", optional "w:color", optional "w:sz",
        .leaf "w14:ligatures" 0 1 Version.office2010],
    leaf "w:b" [attr "w:val" "onOff"],
    leaf "w:i" [attr "w:val" "onOff"],
    leaf "w:color" [needed "w:val" "ST_HexColor"],
    leaf "w:sz" [needed "w:val" "ST_HpsMeasure"],
    { leaf "w14:ligatures" [needed "w14:val" "ST_Ligatures"] with since := Version.office2010 },
    ⟨"w:t", "leafText", none, none, "string", [attr "xml:space" "ST_Space"], []⟩,
    leaf "w:br" [attr "w:type" "ST_BrType"],
    leaf "w:tab" []]

def marks : List ElementEntry :=
  [{ leaf "w:bookmarkStart" [needed "w:id" "ST_DecimalNumber", needed "w:name" "ST_String"] with
      constraints := [inWord (.unique "w:id" true), inWord (.unique "w:name" false)] },
    { leaf "w:bookmarkEnd" [needed "w:id" "ST_DecimalNumber"] with
      constraints := [everywhere (.reference "w:id" "w:bookmarkStart" "w:id")] },
    { composite "w:hyperlink" [any "w:r"] with
      attributes := [attr "r:id" "ST_RelationshipId", attr "w:anchor" "ST_String"]
      constraints :=
        [everywhere (.relationship "r:id"), everywhere (.exclusive ["r:id", "w:anchor"])] }]

def tables : List ElementEntry :=
  [composite "w:tbl" [single "w:tblGrid", any "w:tr"],
    composite "w:tblGrid" [any "w:gridCol"],
    leaf "w:gridCol" [attr "w:w" "ST_TwipsMeasure"],
    composite "w:tr" [several "w:tc"],
    composite "w:tc" [several "w:p"]]

def pages : List ElementEntry :=
  [composite "w:sectPr" [optional "w:pgSz"],
    leaf "w:pgSz"
      [attr "w:w" "ST_TwipsMeasure", attr "w:h" "ST_TwipsMeasure",
        attr "w:orient" "ST_PageOrientation"]]

end Wordprocessing

def wordprocessing : Listing :=
  open Wordprocessing in
  ⟨[], Wordprocessing.types, blocks ++ runs ++ marks ++ tables ++ pages⟩

end OfficeSchema.Listing
