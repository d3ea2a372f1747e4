import LinkGate.Markdown.Inline
import LinkGate.Markdown.Link

/-!
# Extracting links

The composition of reading a document and keeping its bracketed links.
-/

namespace LinkGate.Markdown

/-- Every link and image of a Markdown text that is written with brackets, in document order. -/
def extractLinks (text : String) : List RawLink :=
  RawLink.ofEvents text (events text)

end LinkGate.Markdown
