import RiscvListing.Terminal.Markup

/-!
# Named styles

Some styles have a name of their own, by which they can be asked for like by the words that give a
style.

## Main definitions

* `Terminal.themeNames` — the names of styles.
* `Terminal.lookUp` — looks up a style.
-/

namespace RiscvListing.Terminal

/-- The names of styles. -/
def themeNames : List String :=
  ["none", "reset", "dim", "bright", "bold", "strong", "code", "italic", "emphasize", "blink",
   "blink2", "reverse", "strike", "black", "red", "green", "yellow", "magenta", "cyan", "white",
   "inspect.attr", "inspect.attr.dunder", "inspect.callable", "inspect.async_def", "inspect.def",
   "inspect.class", "inspect.error", "inspect.equals", "inspect.help", "inspect.doc",
   "inspect.value.border", "live.ellipsis", "layout.tree.row", "layout.tree.column",
   "logging.keyword", "logging.level.notset", "logging.level.debug", "logging.level.info",
   "logging.level.warning", "logging.level.error", "logging.level.critical", "log.level",
   "log.time", "log.message", "log.path", "repr.ellipsis", "repr.indent", "repr.error", "repr.str",
   "repr.brace", "repr.comma", "repr.ipv4", "repr.ipv6", "repr.eui48", "repr.eui64",
   "repr.tag_start", "repr.tag_name", "repr.tag_contents", "repr.tag_end", "repr.attrib_name",
   "repr.attrib_equal", "repr.attrib_value", "repr.number", "repr.number_complex",
   "repr.bool_true", "repr.bool_false", "repr.none", "repr.url", "repr.uuid", "repr.call",
   "repr.path", "repr.filename", "rule.line", "rule.text", "json.brace", "json.bool_true",
   "json.bool_false", "json.null", "json.number", "json.str", "json.key", "prompt",
   "prompt.choices", "prompt.default", "prompt.invalid", "prompt.invalid.choice", "pretty",
   "scope.border", "scope.key", "scope.key.special", "scope.equals", "table.header",
   "table.footer", "table.cell", "table.title", "table.caption", "traceback.error",
   "traceback.border.syntax_error", "traceback.border", "traceback.text", "traceback.title",
   "traceback.exc_type", "traceback.exc_value", "traceback.offset", "traceback.error_range",
   "traceback.note", "traceback.group.border", "bar.back", "bar.complete", "bar.finished",
   "bar.pulse", "progress.description", "progress.filesize", "progress.filesize.total",
   "progress.download", "progress.elapsed", "progress.percentage", "progress.remaining",
   "progress.data.speed", "progress.spinner", "status.spinner", "tree", "tree.line",
   "markdown.paragraph", "markdown.text", "markdown.em", "markdown.emph", "markdown.strong",
   "markdown.code", "markdown.code_block", "markdown.block_quote", "markdown.list",
   "markdown.item", "markdown.item.bullet", "markdown.item.number", "markdown.hr",
   "markdown.h1.border", "markdown.h1", "markdown.h2", "markdown.h3", "markdown.h4",
   "markdown.h5", "markdown.h6", "markdown.h7", "markdown.link", "markdown.link_url",
   "markdown.s", "iso8601.date", "iso8601.time", "iso8601.timezone", "rv.section", "rv.success",
   "rv.warning", "rv.error", "rv.info", "rv.dim", "rv.label", "rv.address", "rv.mnemonic"]

/-- Looks up a style by its name or by the words that give it. -/
def lookUp (text : String) : Except Markup.Flaw Unit :=
  if themeNames.contains text ∨ String.ofList (Text.trim text.toList) = "none" then .ok ()
  else
    match Style.ofWords {} (Text.words text.toList) with
    | .style _ => .ok ()
    | .other => .error .style
    | .incomplete => .error .colour

end RiscvListing.Terminal
