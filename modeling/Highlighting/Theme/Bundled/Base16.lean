import Highlighting.Theme.Bundled.Item

/-!
# The `base16` themes

Four themes on palettes of sixteen colors.
-/

namespace Highlighting.BundledTheme

/-- The theme `base16-eighties.dark`. -/
def eightiesDark : Theme := [
  item (rgba 0xD3D0C8FF) none none ["variable.parameter.function"],
  item (rgba 0x747369FF) none none ["comment", "punctuation.definition.comment"],
  item (rgba 0xD3D0C8FF) none none ["punctuation.definition.string",
    "punctuation.definition.variable", "punctuation.definition.string",
    "punctuation.definition.parameters", "punctuation.definition.string",
    "punctuation.definition.array", "none", "keyword.operator"],
  item (rgba 0xCC99CCFF) none none ["keyword"],
  item (rgba 0xF2777AFF) none none ["variable", "variable.other.dollar.only.js"],
  item (rgba 0x6699CCFF) none none ["entity.name.function", "meta.require",
    "support.function.any-method", "variable.function"],
  item (rgba 0xFFCC66FF) none none ["support.class", "entity.name.class",
    "entity.name.type.class"],
  item (rgba 0xF2F0ECFF) none none ["meta.class"],
  item (rgba 0x6699CCFF) none none ["keyword.other.special-method"],
  item (rgba 0xCC99CCFF) none none ["storage"],
  item (rgba 0x66CCCCFF) none none ["support.function"],
  item (rgba 0x99CC99FF) none none ["string", "constant.other.symbol",
    "entity.other.inherited-class"],
  item (rgba 0xF99157FF) none none ["constant.numeric", "none", "none", "constant"],
  item (rgba 0xF2777AFF) none none ["entity.name.tag"],
  item (rgba 0xF99157FF) none none ["entity.other.attribute-name"],
  item (rgba 0x6699CCFF) none none ["entity.other.attribute-name.id",
    "punctuation.definition.entity"],
  item (rgba 0xCC99CCFF) none none ["meta.selector"],
  item (rgba 0xF99157FF) none none ["none"],
  item (rgba 0x6699CCFF) none (font 0) ["punctuation.definition.heading", "entity.name.section"],
  item (rgba 0xF99157FF) none none ["keyword.other.unit"],
  item (rgba 0xFFCC66FF) none (font 1) ["markup.bold", "punctuation.definition.bold"],
  item (rgba 0xCC99CCFF) none (font 4) ["markup.italic", "punctuation.definition.italic"],
  item (rgba 0x99CC99FF) none none ["markup.raw.inline"],
  item (rgba 0xF2777AFF) none none ["string.other.link"],
  item (rgba 0xF99157FF) none none ["meta.link", "meta.image"],
  item (rgba 0xF2777AFF) none none ["markup.list"],
  item (rgba 0xF99157FF) none none ["markup.quote"],
  item (rgba 0xD3D0C8FF) (rgba 0x515151FF) none ["meta.separator"],
  item (rgba 0x99CC99FF) none none ["markup.inserted", "markup.inserted.git_gutter"],
  item (rgba 0xF2777AFF) none none ["markup.deleted", "markup.deleted.git_gutter"],
  item (rgba 0xCC99CCFF) none none ["markup.changed", "markup.changed.git_gutter"],
  item (rgba 0x515151FF) none none ["markup.ignored", "markup.ignored.git_gutter",
    "markup.untracked", "markup.untracked.git_gutter"],
  item (rgba 0x66CCCCFF) none none ["constant.other.color", "string.regexp",
    "constant.character.escape"],
  item (rgba 0xD27B53FF) none none ["punctuation.section.embedded", "variable.interpolation"],
  item (rgba 0x2D2D2DFF) (rgba 0xF2777AFF) none ["invalid.illegal"],
  item (rgba 0xF92672FF) none none ["markup.deleted.git_gutter"],
  item (rgba 0xA6E22EFF) none none ["markup.inserted.git_gutter"],
  item (rgba 0x967EFBFF) none none ["markup.changed.git_gutter"],
  item (rgba 0x565656FF) none none ["markup.ignored.git_gutter", "markup.untracked.git_gutter"]]

/-- The theme `base16-mocha.dark`. -/
def mochaDark : Theme := [
  item (rgba 0xD0C8C6FF) none none ["variable.parameter.function"],
  item (rgba 0x7E705AFF) none none ["comment", "punctuation.definition.comment"],
  item (rgba 0xD0C8C6FF) none none ["punctuation.definition.string",
    "punctuation.definition.variable", "punctuation.definition.string",
    "punctuation.definition.parameters", "punctuation.definition.string",
    "punctuation.definition.array", "none", "keyword.operator"],
  item (rgba 0xA89BB9FF) none none ["keyword"],
  item (rgba 0xCB6077FF) none none ["variable", "variable.other.dollar.only.js"],
  item (rgba 0x8AB3B5FF) none none ["entity.name.function", "meta.require",
    "support.function.any-method", "variable.function"],
  item (rgba 0xF4BC87FF) none none ["support.class", "entity.name.class",
    "entity.name.type.class"],
  item (rgba 0xF5EEEBFF) none none ["meta.class"],
  item (rgba 0x8AB3B5FF) none none ["keyword.other.special-method"],
  item (rgba 0xA89BB9FF) none none ["storage"],
  item (rgba 0x7BBDA4FF) none none ["support.function"],
  item (rgba 0xBEB55BFF) none none ["string", "constant.other.symbol",
    "entity.other.inherited-class"],
  item (rgba 0xD28B71FF) none none ["constant.numeric", "none", "none", "constant"],
  item (rgba 0xCB6077FF) none none ["entity.name.tag"],
  item (rgba 0xD28B71FF) none none ["entity.other.attribute-name"],
  item (rgba 0x8AB3B5FF) none none ["entity.other.attribute-name.id",
    "punctuation.definition.entity"],
  item (rgba 0xA89BB9FF) none none ["meta.selector"],
  item (rgba 0xD28B71FF) none none ["none"],
  item (rgba 0x8AB3B5FF) none (font 0) ["punctuation.definition.heading", "entity.name.section"],
  item (rgba 0xD28B71FF) none none ["keyword.other.unit"],
  item (rgba 0xF4BC87FF) none (font 1) ["markup.bold", "punctuation.definition.bold"],
  item (rgba 0xA89BB9FF) none (font 4) ["markup.italic", "punctuation.definition.italic"],
  item (rgba 0xBEB55BFF) none none ["markup.raw.inline"],
  item (rgba 0xCB6077FF) none none ["string.other.link"],
  item (rgba 0xD28B71FF) none none ["meta.link", "meta.image"],
  item (rgba 0xCB6077FF) none none ["markup.list"],
  item (rgba 0xD28B71FF) none none ["markup.quote"],
  item (rgba 0xD0C8C6FF) (rgba 0x645240FF) none ["meta.separator"],
  item (rgba 0xBEB55BFF) none none ["markup.inserted"],
  item (rgba 0xCB6077FF) none none ["markup.deleted"],
  item (rgba 0xA89BB9FF) none none ["markup.changed"],
  item (rgba 0x7BBDA4FF) none none ["constant.other.color", "string.regexp",
    "constant.character.escape"],
  item (rgba 0xBB9584FF) none none ["punctuation.section.embedded", "variable.interpolation"],
  item (rgba 0x3B3228FF) (rgba 0xCB6077FF) none ["invalid.illegal"],
  item (rgba 0xF92672FF) none none ["markup.deleted.git_gutter"],
  item (rgba 0xA6E22EFF) none none ["markup.inserted.git_gutter"],
  item (rgba 0x967EFBFF) none none ["markup.changed.git_gutter"],
  item (rgba 0x565656FF) none none ["markup.ignored.git_gutter", "markup.untracked.git_gutter"]]

/-- The theme `base16-ocean.dark`. -/
def oceanDark : Theme := [
  item (rgba 0xC0C5CEFF) none none ["variable.parameter.function"],
  item (rgba 0x65737EFF) none none ["comment", "punctuation.definition.comment"],
  item (rgba 0xC0C5CEFF) none none ["punctuation.definition.string",
    "punctuation.definition.variable", "punctuation.definition.string",
    "punctuation.definition.parameters", "punctuation.definition.string",
    "punctuation.definition.array", "none", "keyword.operator"],
  item (rgba 0xB48EADFF) none none ["keyword"],
  item (rgba 0xBF616AFF) none none ["variable", "variable.other.dollar.only.js"],
  item (rgba 0x8FA1B3FF) none none ["entity.name.function", "meta.require",
    "support.function.any-method", "variable.function"],
  item (rgba 0xEBCB8BFF) none none ["support.class", "entity.name.class",
    "entity.name.type.class"],
  item (rgba 0xEFF1F5FF) none none ["meta.class"],
  item (rgba 0x8FA1B3FF) none none ["keyword.other.special-method"],
  item (rgba 0xB48EADFF) none none ["storage"],
  item (rgba 0x96B5B4FF) none none ["support.function"],
  item (rgba 0xA3BE8CFF) none none ["string", "constant.other.symbol",
    "entity.other.inherited-class"],
  item (rgba 0xD08770FF) none none ["constant.numeric", "none", "none", "constant"],
  item (rgba 0xBF616AFF) none none ["entity.name.tag"],
  item (rgba 0xD08770FF) none none ["entity.other.attribute-name"],
  item (rgba 0x8FA1B3FF) none none ["entity.other.attribute-name.id",
    "punctuation.definition.entity"],
  item (rgba 0xB48EADFF) none none ["meta.selector"],
  item (rgba 0xD08770FF) none none ["none"],
  item (rgba 0x8FA1B3FF) none (font 0) ["punctuation.definition.heading", "entity.name.section"],
  item (rgba 0xD08770FF) none none ["keyword.other.unit"],
  item (rgba 0xEBCB8BFF) none (font 1) ["markup.bold", "punctuation.definition.bold"],
  item (rgba 0xB48EADFF) none (font 4) ["markup.italic", "punctuation.definition.italic"],
  item (rgba 0xA3BE8CFF) none none ["markup.raw.inline"],
  item (rgba 0xBF616AFF) none none ["string.other.link"],
  item (rgba 0xD08770FF) none none ["meta.link", "meta.image"],
  item (rgba 0xBF616AFF) none none ["markup.list"],
  item (rgba 0xD08770FF) none none ["markup.quote"],
  item (rgba 0xC0C5CEFF) (rgba 0x4F5B66FF) none ["meta.separator"],
  item (rgba 0xA3BE8CFF) none none ["markup.inserted", "markup.inserted.git_gutter"],
  item (rgba 0xBF616AFF) none none ["markup.deleted", "markup.deleted.git_gutter"],
  item (rgba 0xB48EADFF) none none ["markup.changed", "markup.changed.git_gutter"],
  item (rgba 0x4F5B66FF) none none ["markup.ignored", "markup.ignored.git_gutter",
    "markup.untracked", "markup.untracked.git_gutter"],
  item (rgba 0x96B5B4FF) none none ["constant.other.color", "string.regexp",
    "constant.character.escape"],
  item (rgba 0xAB7967FF) none none ["punctuation.section.embedded", "variable.interpolation"],
  item (rgba 0x2B303BFF) (rgba 0xBF616AFF) none ["invalid.illegal"],
  item (rgba 0xF92672FF) none none ["markup.deleted.git_gutter"],
  item (rgba 0xA6E22EFF) none none ["markup.inserted.git_gutter"],
  item (rgba 0x967EFBFF) none none ["markup.changed.git_gutter"],
  item (rgba 0x565656FF) none none ["markup.ignored.git_gutter", "markup.untracked.git_gutter"]]

/-- The theme `base16-ocean.light`. -/
def oceanLight : Theme := [
  item (rgba 0x4F5B66FF) none none ["variable.parameter.function"],
  item (rgba 0xA7ADBAFF) none none ["comment", "punctuation.definition.comment"],
  item (rgba 0x4F5B66FF) none none ["punctuation.definition.string",
    "punctuation.definition.variable", "punctuation.definition.string",
    "punctuation.definition.parameters", "punctuation.definition.string",
    "punctuation.definition.array", "none", "keyword.operator"],
  item (rgba 0xB48EADFF) none none ["keyword"],
  item (rgba 0xBF616AFF) none none ["variable", "variable.other.dollar.only.js"],
  item (rgba 0x8FA1B3FF) none none ["entity.name.function", "meta.require",
    "support.function.any-method", "variable.function"],
  item (rgba 0xD08770FF) none none ["support.class", "entity.name.class",
    "entity.name.type.class"],
  item (rgba 0x343D46FF) none none ["meta.class"],
  item (rgba 0x8FA1B3FF) none none ["keyword.other.special-method"],
  item (rgba 0xB48EADFF) none none ["storage"],
  item (rgba 0x96B5B4FF) none none ["support.function"],
  item (rgba 0xA3BE8CFF) none none ["string", "constant.other.symbol",
    "entity.other.inherited-class"],
  item (rgba 0xD08770FF) none none ["constant.numeric", "none", "none", "constant"],
  item (rgba 0xBF616AFF) none none ["entity.name.tag"],
  item (rgba 0xD08770FF) none none ["entity.other.attribute-name"],
  item (rgba 0x8FA1B3FF) none none ["entity.other.attribute-name.id",
    "punctuation.definition.entity"],
  item (rgba 0xB48EADFF) none none ["meta.selector"],
  item (rgba 0xD08770FF) none none ["none"],
  item (rgba 0x8FA1B3FF) none (font 0) ["punctuation.definition.heading", "entity.name.section"],
  item (rgba 0xD08770FF) none none ["keyword.other.unit"],
  item (rgba 0xD08770FF) none (font 1) ["markup.bold", "punctuation.definition.bold"],
  item (rgba 0xB48EADFF) none (font 4) ["markup.italic", "punctuation.definition.italic"],
  item (rgba 0xA3BE8CFF) none none ["markup.raw.inline"],
  item (rgba 0xBF616AFF) none none ["string.other.link"],
  item (rgba 0xD08770FF) none none ["meta.link", "meta.image"],
  item (rgba 0xBF616AFF) none none ["markup.list"],
  item (rgba 0xD08770FF) none none ["markup.quote"],
  item (rgba 0x4F5B66FF) (rgba 0xDFE1E8FF) none ["meta.separator"],
  item (rgba 0xA3BE8CFF) none none ["markup.inserted", "markup.inserted.git_gutter"],
  item (rgba 0xBF616AFF) none none ["markup.deleted", "markup.deleted.git_gutter"],
  item (rgba 0xB48EADFF) none none ["markup.changed", "markup.changed.git_gutter"],
  item (rgba 0xC0C5CEFF) none none ["markup.ignored", "markup.ignored.git_gutter",
    "markup.untracked", "markup.untracked.git_gutter"],
  item (rgba 0x96B5B4FF) none none ["constant.other.color", "string.regexp",
    "constant.character.escape"],
  item (rgba 0xAB7967FF) none none ["punctuation.section.embedded", "variable.interpolation"],
  item (rgba 0xEFF1F5FF) (rgba 0xBF616AFF) none ["invalid.illegal"],
  item (rgba 0xF92672FF) none none ["markup.deleted.git_gutter"],
  item (rgba 0xA6E22EFF) none none ["markup.inserted.git_gutter"],
  item (rgba 0x967EFBFF) none none ["markup.changed.git_gutter"],
  item (rgba 0x565656FF) none none ["markup.ignored.git_gutter", "markup.untracked.git_gutter"]]

end Highlighting.BundledTheme
