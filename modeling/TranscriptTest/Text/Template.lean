/-!
# Message templates

The tool's messages are templates with named slots written `{$name}`. The values are put in one
name after the other, each replacing every slot of its name in the text so far, so a value that
itself looks like a slot is filled by a later name; last, every backslash followed by `n` becomes a
line break, wherever it came from.
-/

namespace TranscriptTest.Text

/-- The slot of a name in a template. -/
def slot (name : String) : String := "\x7b$" ++ name ++ "\x7d"

/-- Fills a template with values, in the order given, then turns each backslash-`n` into a line
break. -/
def fillTemplate (template : String) (values : List (String × String)) : String :=
  let filled := values.foldl (fun text (name, value) => text.replace (slot name) value) template
  filled.replace "\\n" "\n"

end TranscriptTest.Text
