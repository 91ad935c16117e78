import Highlighting.Theme.Bundled.Item

/-!
# The `Solarized` themes

A dark and a light theme that share their accents and differ in their tones.
-/

namespace Highlighting.BundledTheme

/-- The theme `Solarized (dark)`. -/
def solarizedDark : Theme := [
  item (rgba 0x586E75FF) none none ["comment", "meta.documentation"],
  item (rgba 0x2AA198FF) none none ["string", "string.regexp"],
  item (rgba 0xDC322FFF) none none ["constant.character.escape"],
  item (rgba 0x6C71C4FF) none none ["constant.numeric"],
  item (rgba 0x268BD2FF) none none ["variable"],
  item (rgba 0xB58900FF) none none ["variable.function"],
  item (rgba 0xD33682FF) none none ["variable.language"],
  item (rgba 0x859900FF) none none ["keyword"],
  item (rgba 0xCB4B16FF) none none ["keyword", "keyword.control.import",
    "keyword.control.import.from", "keyword.other.import", "keyword.control.at-rule.include",
    "keyword.control.at-rule.import"],
  item (rgba 0x657B83FF) none none ["keyword.operator.comparison",
    "keyword.operator.assignment", "keyword.operator.arithmetic"],
  item (rgba 0x859900FF) none none ["storage"],
  item (rgba 0x93A1A1FF) none none ["storage.modifier"],
  item (rgba 0xB58900FF) none none ["keyword.control.class", "entity.name", "entity.name.class",
    "entity.name.type.class"],
  item (rgba 0x268BD2FF) none none ["entity.other.inherited-class"],
  item (rgba 0xB58900FF) none none ["entity.other.attribute-name"],
  item (rgba 0x859900FF) none none ["support", "support.type", "support.class"],
  item (rgba 0xB58900FF) none none ["entity.name.function"],
  item (rgba 0x859900FF) none none ["punctuation.definition.variable"],
  item (rgba 0xB58900FF) none none ["constant", "constant.language", "meta.preprocessor"],
  item (rgba 0xCB4B16FF) none none ["entity.name.section"],
  item (rgba 0xDC322FFF) none none ["support.function.construct", "keyword.other.new"],
  item (rgba 0xCB4B16FF) none none ["constant.character", "constant.other"],
  item (rgba 0x268BD2FF) none none ["entity.name.tag"],
  item (rgba 0x586E75FF) none none ["punctuation.definition.tag.html",
    "punctuation.definition.tag.begin", "punctuation.definition.tag.end"],
  item (rgba 0x859900FF) none none ["support.function"],
  item (rgba 0xDC322FFF) none none ["punctuation.separator.continuation"],
  item (rgba 0x268BD2FF) none none ["storage.type"],
  item (rgba 0xCB4B16FF) none none ["support.type.exception", "keyword.other.special-method"],
  item none (rgba 0x6E2E32FF) none ["invalid"],
  item (rgba 0x2AA198FF) none none ["string.quoted.double", "string.quoted.single"],
  item (rgba 0x839496FF) none none ["punctuation.definition.string"],
  item (rgba 0x268BD2FF) none none ["meta.brace.square", "punctuation.section.brackets"],
  item (rgba 0x657B83FF) none none ["meta.brace.round", "meta.brace.curly",
    "punctuation.section", "punctuation.section.block", "punctuation.definition.parameters",
    "punctuation.section.group"],
  item (rgba 0xB58900FF) none none ["support.constant.color",
    "invalid.deprecated.color.w3c-non-standard-color-name.scss"],
  item (rgba 0x657B83FF) none none ["meta.selector.css"],
  item (rgba 0xB58900FF) none none ["entity.name.tag.css", "entity.name.tag.scss",
    "keyword.control.html.elements", "keyword.control.untitled",
    "entity.other.attribute-name.class", "entity.other.attribute-name.id"],
  item (rgba 0x268BD2FF) none none ["entity.other.attribute-name.pseudo-element",
    "entity.other.attribute-name.tag.pseudo-element",
    "entity.other.attribute-name.pseudo-class", "entity.other.attribute-name.tag.pseudo-class"],
  item (rgba 0x657B83FF) none none ["meta.tag.other.html", "meta.tag.any.html",
    "meta.tag.block.any", "meta.tag.inline.any", "meta.tag.structure.any.html",
    "source.js.embedded.html", "punctuation.separator.key-value.html"],
  item (rgba 0xB58900FF) none none ["entity.other.attribute-name.html",
    "entity.other.attribute-name"],
  item (rgba 0x859900FF) none none ["keyword.other.special-method.ruby"],
  item (rgba 0xB58900FF) none none ["variable.other.constant.ruby"],
  item (rgba 0x2AA198FF) none none ["constant.other.symbol.ruby"],
  item (rgba 0xCB4B16FF) none none ["keyword.other.special-method.ruby"],
  item (rgba 0xB58900FF) none none ["support.function.construct.php"],
  item (rgba 0xCB4B16FF) none none ["entity.name.function.preprocessor.c",
    "meta.preprocessor.c.include", "meta.preprocessor.macro.c"],
  item (rgba 0x2AA198FF) none none ["string.quoted.other.lt-gt.include.c",
    "punctuation.definition.string.begin.c", "punctuation.definition.string.end.c"],
  item (rgba 0xDC322FFF) none none ["other.package.exclude", "other.remove"],
  item (rgba 0x2AA198FF) none none ["other.add"],
  item (rgba 0xDC322FFF) none none ["punctuation.section.group.tex",
    "punctuation.definition.arguments.begin.latex",
    "punctuation.definition.arguments.end.latex", "punctuation.definition.arguments.latex"],
  item (rgba 0xB58900FF) none none ["meta.group.braces.tex", "string.other.math.tex"],
  item (rgba 0xCB4B16FF) none none ["variable.parameter.function.latex"],
  item (rgba 0xDC322FFF) none none ["punctuation.definition.constant.math.tex"],
  item (rgba 0x2AA198FF) none none ["constant.other.math.tex",
    "constant.other.general.math.tex", "constant.other.general.math.tex",
    "constant.character.math.tex"],
  item (rgba 0xB58900FF) none none ["string.other.math.tex"],
  item (rgba 0xDC322FFF) none none ["punctuation.definition.string.begin.tex",
    "punctuation.definition.string.end.tex"],
  item (rgba 0x2AA198FF) none none ["keyword.control.label.latex",
    "constant.other.general.math.tex"],
  item (rgba 0xDC322FFF) none none ["variable.parameter.definition.label.latex"],
  item (rgba 0x859900FF) none none ["support.function.be.latex"],
  item (rgba 0xCB4B16FF) none none ["support.function.section.latex"],
  item (rgba 0x2AA198FF) none none ["support.function.general.tex", "keyword.control.ref.latex"],
  item (rgba 0x859900FF) none none ["storage.type.class.python", "storage.type.function.python",
    "storage.modifier.global.python"],
  item (rgba 0xB58900FF) none none ["support.type.exception.python"],
  item (rgba 0x93A1A1FF) none none ["meta.scope.for-in-loop.shell", "variable.other.loop.shell",
    "meta.scope.case-block.shell", "meta.scope.case-body.shell"],
  item (rgba 0xDC322FFF) none none ["punctuation.definition.logical-expression.shell"],
  item (rgba 0x859900FF) none none ["storage.modifier.c++"],
  item (rgba 0x268BD2FF) none none ["support.function.perl"],
  item (rgba 0x586E75FF) none none ["meta.diff", "meta.diff.header"],
  item (rgba 0x268BD2FF) none none ["meta.diff.range"],
  item (rgba 0xDC322FFF) none none ["markup.deleted"],
  item (rgba 0x2AA198FF) none none ["markup.changed"],
  item (rgba 0x859900FF) none none ["markup.inserted"],
  item (rgba 0xB58900FF) none none ["markup.heading", "punctuation.definition.heading.markdown"],
  item (rgba 0x859900FF) none none ["markup.quote"],
  item none none (font 4) ["markup.italic"],
  item none none (font 1) ["markup.bold"],
  item (rgba 0x2AA198FF) none none ["markup.underline.link.markdown",
    "constant.other.reference.link.markdown"],
  item (rgba 0x6C71C4FF) none none ["constant.other.reference.link.markdown"],
  item none (rgba 0x586E75FF) none ["meta.dummy.line-break"],
  item (rgba 0x586E75FF) (rgba 0x586E75FF) none ["sublimelinter.notes",
    "sublimelinter.outline.illegal"],
  item none (rgba 0xDC322FFF) none ["sublimelinter.underline.illegal"],
  item (rgba 0x839496FF) (rgba 0x839496FF) none ["sublimelinter.outline.warning"],
  item none (rgba 0xB58900FF) none ["sublimelinter.underline.warning"],
  item (rgba 0x657B83FF) (rgba 0x657B83FF) none ["sublimelinter.outline.violation"],
  item none (rgba 0xCB4B16FF) none ["sublimelinter.underline.violation"],
  item (rgba 0xB58900FF) none none ["sublimelinter.mark.warning"],
  item (rgba 0xDC322FFF) none none ["sublimelinter.mark.error"],
  item (rgba 0x657B83FF) none none ["sublimelinter.gutter-mark"],
  item (rgba 0x586E75FF) none none ["brackethighlighter.all"],
  item (rgba 0x2AA198FF) none none ["entity.name.filename.find-in-files"],
  item (rgba 0x586E75FF) none none ["constant.numeric.line-number.find-in-files"],
  item (rgba 0xDC322FFF) none none ["markup.deleted.git_gutter"],
  item (rgba 0x859900FF) none none ["markup.inserted.git_gutter"],
  item (rgba 0xB58900FF) none none ["markup.changed.git_gutter"],
  item (rgba 0x839496FF) none none ["variable.other.readwrite.js", "variable.other.object.js",
    "variable.other.constant.js"]]

/-- The theme `Solarized (light)`. -/
def solarizedLight : Theme := [
  item (rgba 0x93A1A1FF) none none ["comment", "meta.documentation"],
  item (rgba 0x2AA198FF) none none ["string", "string.regexp"],
  item (rgba 0xDC322FFF) none none ["constant.character.escape"],
  item (rgba 0x6C71C4FF) none none ["constant.numeric"],
  item (rgba 0x268BD2FF) none none ["variable"],
  item (rgba 0xB58900FF) none none ["variable.function"],
  item (rgba 0xD33682FF) none none ["variable.language"],
  item (rgba 0x859900FF) none none ["keyword"],
  item (rgba 0xCB4B16FF) none none ["keyword", "keyword.control.import",
    "keyword.control.import.from", "keyword.other.import", "keyword.control.at-rule.include",
    "keyword.control.at-rule.import"],
  item (rgba 0x657B83FF) none none ["keyword.operator.comparison",
    "keyword.operator.assignment", "keyword.operator.arithmetic"],
  item (rgba 0x859900FF) none none ["storage"],
  item (rgba 0x586E75FF) none none ["storage.modifier"],
  item (rgba 0xB58900FF) none none ["keyword.control.class", "entity.name", "entity.name.class",
    "entity.name.type.class"],
  item (rgba 0x268BD2FF) none none ["entity.other.inherited-class"],
  item (rgba 0xB58900FF) none none ["entity.other.attribute-name"],
  item (rgba 0x859900FF) none none ["support", "support.type", "support.class"],
  item (rgba 0xB58900FF) none none ["entity.name.function"],
  item (rgba 0x859900FF) none none ["punctuation.definition.variable"],
  item (rgba 0xB58900FF) none none ["constant", "constant.language", "meta.preprocessor"],
  item (rgba 0xCB4B16FF) none none ["entity.name.section"],
  item (rgba 0xDC322FFF) none none ["support.function.construct", "keyword.other.new"],
  item (rgba 0xCB4B16FF) none none ["constant.character", "constant.other"],
  item (rgba 0x268BD2FF) none none ["entity.name.tag"],
  item (rgba 0x93A1A1FF) none none ["punctuation.definition.tag.html",
    "punctuation.definition.tag.begin", "punctuation.definition.tag.end"],
  item (rgba 0x859900FF) none none ["support.function"],
  item (rgba 0xDC322FFF) none none ["punctuation.separator.continuation"],
  item (rgba 0x268BD2FF) none none ["storage.type"],
  item (rgba 0xCB4B16FF) none none ["support.type.exception", "keyword.other.special-method"],
  item none (rgba 0xEC9489FF) none ["invalid"],
  item (rgba 0x2AA198FF) none none ["string.quoted.double", "string.quoted.single"],
  item (rgba 0x839496FF) none none ["punctuation.definition.string"],
  item (rgba 0x268BD2FF) none none ["meta.brace.square", "punctuation.section.brackets"],
  item (rgba 0x657B83FF) none none ["meta.brace.round", "meta.brace.curly",
    "punctuation.section", "punctuation.section.block", "punctuation.definition.parameters",
    "punctuation.section.group"],
  item (rgba 0xB58900FF) none none ["support.constant.color",
    "invalid.deprecated.color.w3c-non-standard-color-name.scss"],
  item (rgba 0x657B83FF) none none ["meta.selector.css"],
  item (rgba 0xB58900FF) none none ["entity.name.tag.css", "entity.name.tag.scss",
    "keyword.control.html.elements", "keyword.control.untitled",
    "entity.other.attribute-name.class", "entity.other.attribute-name.id"],
  item (rgba 0x268BD2FF) none none ["entity.other.attribute-name.pseudo-element",
    "entity.other.attribute-name.tag.pseudo-element",
    "entity.other.attribute-name.pseudo-class", "entity.other.attribute-name.tag.pseudo-class"],
  item (rgba 0x657B83FF) none none ["meta.tag.other.html", "meta.tag.any.html",
    "meta.tag.block.any", "meta.tag.inline.any", "meta.tag.structure.any.html",
    "source.js.embedded.html", "punctuation.separator.key-value.html"],
  item (rgba 0xB58900FF) none none ["entity.other.attribute-name.html",
    "entity.other.attribute-name"],
  item (rgba 0x859900FF) none none ["keyword.other.special-method.ruby"],
  item (rgba 0xB58900FF) none none ["variable.other.constant.ruby"],
  item (rgba 0x2AA198FF) none none ["constant.other.symbol.ruby"],
  item (rgba 0xCB4B16FF) none none ["keyword.other.special-method.ruby"],
  item (rgba 0xB58900FF) none none ["support.function.construct.php"],
  item (rgba 0xCB4B16FF) none none ["entity.name.function.preprocessor.c",
    "meta.preprocessor.c.include", "meta.preprocessor.macro.c"],
  item (rgba 0x2AA198FF) none none ["string.quoted.other.lt-gt.include.c",
    "punctuation.definition.string.begin.c", "punctuation.definition.string.end.c"],
  item (rgba 0xDC322FFF) none none ["other.package.exclude", "other.remove"],
  item (rgba 0x2AA198FF) none none ["other.add"],
  item (rgba 0xDC322FFF) none none ["punctuation.section.group.tex",
    "punctuation.definition.arguments.begin.latex",
    "punctuation.definition.arguments.end.latex", "punctuation.definition.arguments.latex"],
  item (rgba 0xB58900FF) none none ["meta.group.braces.tex", "string.other.math.tex"],
  item (rgba 0xCB4B16FF) none none ["variable.parameter.function.latex"],
  item (rgba 0xDC322FFF) none none ["punctuation.definition.constant.math.tex"],
  item (rgba 0x2AA198FF) none none ["constant.other.math.tex",
    "constant.other.general.math.tex", "constant.other.general.math.tex",
    "constant.character.math.tex"],
  item (rgba 0xB58900FF) none none ["string.other.math.tex"],
  item (rgba 0xDC322FFF) none none ["punctuation.definition.string.begin.tex",
    "punctuation.definition.string.end.tex"],
  item (rgba 0x2AA198FF) none none ["keyword.control.label.latex",
    "constant.other.general.math.tex"],
  item (rgba 0xDC322FFF) none none ["variable.parameter.definition.label.latex"],
  item (rgba 0x859900FF) none none ["support.function.be.latex"],
  item (rgba 0xCB4B16FF) none none ["support.function.section.latex"],
  item (rgba 0x2AA198FF) none none ["support.function.general.tex", "keyword.control.ref.latex"],
  item (rgba 0x859900FF) none none ["storage.type.class.python", "storage.type.function.python",
    "storage.modifier.global.python"],
  item (rgba 0xB58900FF) none none ["support.type.exception.python"],
  item (rgba 0x586E75FF) none none ["meta.scope.for-in-loop.shell", "variable.other.loop.shell",
    "meta.scope.case-block.shell", "meta.scope.case-body.shell"],
  item (rgba 0xDC322FFF) none none ["punctuation.definition.logical-expression.shell"],
  item (rgba 0x859900FF) none none ["storage.modifier.c++"],
  item (rgba 0x268BD2FF) none none ["support.function.perl"],
  item (rgba 0x93A1A1FF) none none ["meta.diff", "meta.diff.header"],
  item (rgba 0x268BD2FF) none none ["meta.diff.range"],
  item (rgba 0xDC322FFF) none none ["markup.deleted"],
  item (rgba 0x2AA198FF) none none ["markup.changed"],
  item (rgba 0x859900FF) none none ["markup.inserted"],
  item (rgba 0xB58900FF) none none ["markup.heading", "punctuation.definition.heading.markdown"],
  item (rgba 0x859900FF) none none ["markup.quote"],
  item none none (font 4) ["markup.italic"],
  item none none (font 1) ["markup.bold"],
  item (rgba 0x2AA198FF) none none ["markup.underline.link.markdown",
    "constant.other.reference.link.markdown"],
  item (rgba 0x6C71C4FF) none none ["constant.other.reference.link.markdown"],
  item none (rgba 0xEEE8D5FF) none ["meta.dummy.line-break"],
  item (rgba 0xEEE8D5FF) (rgba 0xEEE8D5FF) none ["sublimelinter.notes"],
  item (rgba 0x93A1A1FF) (rgba 0x93A1A1FF) none ["sublimelinter.outline.illegal"],
  item none (rgba 0xDC322FFF) none ["sublimelinter.underline.illegal"],
  item (rgba 0x839496FF) (rgba 0x839496FF) none ["sublimelinter.outline.warning"],
  item none (rgba 0xB58900FF) none ["sublimelinter.underline.warning"],
  item (rgba 0x657B83FF) (rgba 0x657B83FF) none ["sublimelinter.outline.violation"],
  item none (rgba 0xCB4B16FF) none ["sublimelinter.underline.violation"],
  item (rgba 0xB58900FF) none none ["sublimelinter.mark.warning"],
  item (rgba 0xDC322FFF) none none ["sublimelinter.mark.error"],
  item (rgba 0x657B83FF) none none ["sublimelinter.gutter-mark"],
  item (rgba 0x93A1A1FF) none none ["brackethighlighter.all"],
  item (rgba 0x2AA198FF) none none ["entity.name.filename.find-in-files"],
  item (rgba 0x93A1A1FF) none none ["constant.numeric.line-number.find-in-files"],
  item (rgba 0xDC322FFF) none none ["markup.deleted.git_gutter"],
  item (rgba 0x859900FF) none none ["markup.inserted.git_gutter"],
  item (rgba 0xB58900FF) none none ["markup.changed.git_gutter"],
  item (rgba 0x657B83FF) none none ["variable.other.readwrite.js", "variable.other.object.js",
    "variable.other.constant.js"]]

end Highlighting.BundledTheme
