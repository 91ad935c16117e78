import Highlighting.Theme.Bundled.Item

/-!
# The theme `InspiredGitHub`

A light theme.
-/

namespace Highlighting.BundledTheme

/-- The theme `InspiredGitHub`. -/
def inspiredGitHub : Theme := [
  item (rgba 0x969896FF) none (font 4) ["comment"],
  item (rgba 0x183691FF) none none ["string"],
  item (rgba 0xA71D5DFF) none none ["regexp-operator", "punctuation.definition.string.begin",
    "punctuation.definition.string.end"],
  item (rgba 0x0086B3FF) none none ["constant.numeric", "constant.language",
    "constant.character", "constant.other", "variable.other.constant"],
  item (rgba 0x323232FF) none none ["variable"],
  item (rgba 0xA71D5DFF) none (font 1) ["keyword", "bitwise-operator", "storage", "storage.type"],
  item (rgba 0x0086B3FF) none none ["entity.name.class", "entity.other.inherited-class"],
  item (rgba 0x795DA3FF) none (font 1) ["entity.name.function"],
  item (rgba 0x323232FF) none none ["variable.parameter"],
  item (rgba 0x63A35CFF) none none ["entity.name.tag"],
  item (rgba 0x795DA3FF) none none ["entity.other.attribute-name"],
  item (rgba 0x62A35CFF) none none ["support.function"],
  item (rgba 0x0086B3FF) none none ["support.constant", "support.type", "support.class"],
  item (rgba 0x323232FF) none none ["support.other.variable"],
  item (rgba 0xB52A1DFF) (rgba 0xF5F5F5FF) (font 1) ["invalid", "invalid.illegal",
    "invalid.deprecated"],
  item (rgba 0x323232FF) none (font 1) ["entity.name.filename.find-in-files"],
  item (rgba 0xB3B3B3FF) none none ["constant.numeric.line-number.find-in-files",
    "constant.numeric.line-number.match.find-in-files"],
  item (rgba 0x969896FF) (rgba 0xFFFFFFFF) (font 4) ["meta.diff.header"],
  item (rgba 0xBD2C00FF) (rgba 0xFFECECFF) (font 5) ["punctuation.definition.from-file.diff"],
  item (rgba 0x55A532FF) (rgba 0xEAFFEAFF) (font 5) ["punctuation.definition.to-file.diff"],
  item (rgba 0x969896FF) none (font 5) ["meta.diff.range"],
  item none (rgba 0xFFECECFF) none ["markup.deleted"],
  item (rgba 0xBD2C00FF) none (font 1) ["punctuation.definition.inserted"],
  item none (rgba 0xEAFFEAFF) none ["markup.inserted"],
  item (rgba 0x55A532FF) none (font 1) ["punctuation.definition.inserted"],
  item (rgba 0xBD2C00FF) none none ["markup.deleted.git_gutter"],
  item (rgba 0x55A532FF) none none ["markup.inserted.git_gutter"],
  item (rgba 0x0086B3FF) none none ["markup.changed.git_gutter"],
  item (rgba 0xB3B3B3FF) none none ["markup.ignored.git_gutter", "markup.untracked.git_gutter"],
  item (rgba 0x323232FF) none none ["punctuation.definition.entity"],
  item (rgba 0xA71D5DFF) none none ["entity.other.attribute-name.pseudo-class",
    "entity.other.attribute-name.pseudo-element"],
  item (rgba 0x323232FF) none none ["meta.value", "support.constant", "support.function"],
  item (rgba 0xED6A43FF) none none ["constant.other.color"],
  item (rgba 0x323232FF) none none ["punctuation.definition.entity"],
  item (rgba 0xA71D5DFF) none none ["entity.other.attribute-name.pseudo-class",
    "entity.other.attribute-name.pseudo-element"],
  item (rgba 0x323232FF) none none ["support.constant.property-value", "support.function"],
  item (rgba 0xA71D5DFF) none none ["variable"],
  item (rgba 0xED6A43FF) none none ["variable.language.this.js"],
  item (rgba 0x323232FF) none (font 0) ["entity.name.function"],
  item (rgba 0x795DA3FF) none (font 1) ["entity.name.function", "meta.function"],
  item (rgba 0x795DA3FF) none none ["entity.name.type.new.js"],
  item (rgba 0x0086B3FF) none none ["variable.language.prototype.js", "support.function"],
  item (rgba 0x795DA3FF) none none ["support.type.object.console.js"],
  item (rgba 0x183691FF) none (font 1) ["string.quoted.double.json"],
  item (rgba 0x323232FF) none (font 0) ["string.quoted.double.json"],
  item (rgba 0x183691FF) none (font 1) ["string.quoted.double.json"],
  item (rgba 0x323232FF) none (font 0) ["string.quoted.double.json"],
  item (rgba 0x183691FF) none (font 1) ["string.quoted.double.json"],
  item (rgba 0x323232FF) none (font 0) ["string.quoted.double.json"],
  item (rgba 0x183691FF) none (font 1) ["string.quoted.double.json"],
  item (rgba 0x323232FF) none (font 0) ["string.quoted.double.json"],
  item (rgba 0x183691FF) none (font 1) ["string.quoted.double.json"],
  item (rgba 0x323232FF) none (font 0) ["string.quoted.double.json"],
  item (rgba 0x183691FF) none (font 1) ["string.quoted.double.json"],
  item (rgba 0x323232FF) none (font 0) ["string.quoted.double.json"],
  item (rgba 0x183691FF) none (font 1) ["string.quoted.double.json"],
  item (rgba 0x323232FF) none (font 0) ["string.quoted.double.json"],
  item (rgba 0x183691FF) none (font 1) ["string.quoted.double.json"],
  item (rgba 0x323232FF) none (font 0) ["string.quoted.double.json"],
  item (rgba 0x183691FF) none (font 1) ["string.quoted.double.json"],
  item (rgba 0x323232FF) none (font 0) ["string.quoted.double.json"],
  item (rgba 0x183691FF) none (font 1) ["string.quoted.double.json"],
  item (rgba 0x323232FF) none (font 0) ["string.quoted.double.json"],
  item (rgba 0x183691FF) none (font 1) ["string.quoted.double.json"],
  item (rgba 0x323232FF) none (font 0) ["string.quoted.double.json"],
  item (rgba 0x183691FF) none (font 1) ["string.quoted.double.json"],
  item (rgba 0x323232FF) none (font 0) ["string.quoted.double.json"],
  item (rgba 0x183691FF) none (font 1) ["string.quoted.double.json"],
  item (rgba 0x323232FF) none (font 0) ["string.quoted.double.json"],
  item (rgba 0x183691FF) none (font 1) ["string.quoted.double.json"],
  item (rgba 0x323232FF) none (font 0) ["string.quoted.double.json"],
  item (rgba 0x183691FF) none (font 1) ["string.quoted.double.json"],
  item (rgba 0x323232FF) none (font 0) ["string.quoted.double.json"],
  item (rgba 0x183691FF) none (font 1) ["string.quoted.double.json"],
  item (rgba 0x323232FF) none (font 0) ["string.quoted.double.json"],
  item (rgba 0x183691FF) none (font 1) ["string.quoted.double.json"],
  item (rgba 0x323232FF) none (font 0) ["string.quoted.double.json"],
  item (rgba 0x183691FF) none (font 1) ["string.quoted.double.json"],
  item (rgba 0x323232FF) none (font 0) ["string.quoted.double.json"],
  item (rgba 0x183691FF) none (font 1) ["string.quoted.double.json"],
  item (rgba 0x323232FF) none (font 0) ["string.quoted.double.json"],
  item (rgba 0x183691FF) none (font 1) ["string.quoted.double.json"],
  item (rgba 0x323232FF) none (font 0) ["string.quoted.double.json"],
  item (rgba 0x183691FF) none (font 1) ["string.quoted.double.json"],
  item (rgba 0x323232FF) none (font 0) ["string.quoted.double.json"],
  item none none (font 1) ["keyword", "storage", "storage.type"],
  item (rgba 0x323232FF) none (font 1) ["entity.name.function", "entity.name.type.class"],
  item (rgba 0xED6A43FF) none none ["variable.language.ruby"],
  item (rgba 0x795DA3FF) none (font 1) ["entity.name.type.module.ruby",
    "entity.name.type.class.ruby", "entity.other.inherited-class.ruby"],
  item (rgba 0xA71D5DFF) none none ["punctuation.definition"],
  item (rgba 0xB3B3B3FF) none none ["meta.separator"],
  item none none (font 1) ["markup.heading"],
  item (rgba 0x323232FF) none none ["markup.raw.block", "markup.raw.inline"],
  item (rgba 0x4183C4FF) none none ["meta.link", "meta.image"],
  item none none (font 4) ["markup.underline.link", "constant.other.reference"],
  item (rgba 0xED6A43FF) none none ["markup.list"],
  item none none (font 1) ["markup.bold"],
  item none none (font 4) ["markup.italic"],
  item none none (font 5) ["markup.italic", "markup.bold"]]

end Highlighting.BundledTheme
