import Chartwright.Chart.State
import Chartwright.Json.Printer
import Chartwright.Table.Field

/-!
Prompts for language models: what is asked of them once and for all, and the request for a command
with the fields of the data and the chart as it is.
-/

namespace Chartwright
namespace Prompt
open Form

/-- Lines of text, with ends of lines between them. -/
def lines (items : List String) : String := "\n".intercalate items

def planInstructions : String := lines
  ["You are a Vega-Lite chart configuration assistant.",
   "You convert a natural language command into a structured list of edit operations",
   "for a chart builder.",
   "",
   "OUTPUT FORMAT (STRICT):",
   "Return a SINGLE JSON array of operations only. No prose, no code fences, no " ++
     "explanations.",
   "Use valid JSON with double-quoted keys, no trailing commas.",
   "Use exact field names from the field list you are given.",
   "",
   "AVAILABLE OPERATIONS:",
   "1. set_mark: change the chart type (bar, line, area, point, circle, square, tick, " ++
     "rect, rule, text)",
   "   \x7b\"op\": \"set_mark\", \"mark\": \"line\", \"options\": \x7b\"point\": " ++
     "true\x7d\x7d",
   "   options may carry point (line/area only), stacked (\"zero\" | \"normalize\" | " ++
     "\"none\", bar/area only),",
   "   opacity, size, strokeWidth, interpolate.",
   "",
   "2. set_encoding: map a field to a visual channel (x, y, color, size)",
   "   \x7b\"op\": \"set_encoding\", \"channel\": \"color\", \"field\": \"Region\", " ++
     "\"type\": \"nominal\"\x7d",
   "",
   "3. set_series_colors: set custom colors for specific categories",
   "   \x7b\"op\": \"set_series_colors\", \"colors\": \x7b\"West\": \"#1f77b4\", " ++
     "\"East\": \"#ff7f0e\"\x7d\x7d",
   "",
   "4. set_color_scheme: use a named color scheme (viridis, tableau10, category10, ...)",
   "   \x7b\"op\": \"set_color_scheme\", \"scheme\": \"viridis\"\x7d",
   "",
   "5. set_top_n: keep only the top N records",
   "   \x7b\"op\": \"set_top_n\", \"n\": 10, \"byField\": \"Sales\", \"order\": " ++
     "\"descending\"\x7d",
   "",
   "6. set_sort: sort an axis (\"x\" or \"y\"), optionally by a field",
   "   \x7b\"op\": \"set_sort\", \"channelOrField\": \"y\", \"by\": \"Sales\", " ++
     "\"order\": \"descending\"\x7d",
   "",
   "7. add_filter: add a Vega expression filter",
   "   \x7b\"op\": \"add_filter\", \"expr\": \"datum.Sales > 100\"\x7d",
   "",
   "8. set_aggregate: set the aggregation function of the x or y channel",
   "   \x7b\"op\": \"set_aggregate\", \"channel\": \"y\", \"aggregate\": \"sum\"\x7d",
   "",
   "9. set_title: set the chart title",
   "   \x7b\"op\": \"set_title\", \"title\": \"Sales Overview\"\x7d",
   "",
   "10. set_size: set chart dimensions (a number of pixels or \"container\")",
   "    \x7b\"op\": \"set_size\", \"width\": 600, \"height\": 400\x7d",
   "",
   "11. remove_encoding: remove an encoding channel",
   "    \x7b\"op\": \"remove_encoding\", \"channel\": \"color\"\x7d",
   "",
   "RULES:",
   "- Emit only the operations the command asks for, in the order they should apply.",
   "- If the command asks for nothing you can express, return [].",
   "",
   "Example response:",
   "[\x7b\"op\": \"set_mark\", \"mark\": \"line\"\x7d, \x7b\"op\": \"set_encoding\", " ++
     "\"channel\": \"color\", \"field\": \"Region\"\x7d]",
   ""]

/-- What a model is told that edits whole specifications. -/
def editInstructions : String := lines
  ["You are a Vega-Lite expert. The user has a complex Vega-Lite",
   "specification and wants to modify it.",
   "",
   "OUTPUT FORMAT (STRICT):",
   "Return the COMPLETE modified Vega-Lite spec as a SINGLE JSON object.",
   "No markdown, no code fences, no explanation.",
   "",
   "RULES:",
   "- Preserve the structure and complexity of the original spec (facet, layer, concat,",
   "  repeat, transforms, data source) and apply only the requested change.",
   "- Use exact field names from the field list you are given.",
   "- Keep the \"data\" entry exactly as it is.",
   ""]

/-- One line for each field: with its kind if the fields are known, else the names alone. -/
def fieldLines (fields : List DataField) (names : List String) : String :=
  if fields.isEmpty then
    let text := lines (names.map fun name => "- " ++ name)
    if text.isEmpty then "- (no fields)" else text
  else lines (fields.map fun field => "- " ++ field.name ++ " (" ++ Named.name field.kind ++ ")")

/-- The fields on the channels that have one. -/
def encodingLine (state : BuilderState) : String :=
  let entries := (Named.all (α := Channel)).filterMap fun channel =>
    (filled? ((state.encodings.at? channel).bind (·.field))).map fun field =>
      Named.name channel ++ ": " ++ field
  if entries.isEmpty then "none" else ", ".intercalate entries

def titleLine (state : BuilderState) : String :=
  if state.titleJson.isVacant then "none" else state.titleJson.display

def planRequest (command : String) (names : List String) (state : BuilderState)
    (fields : List DataField) : String := lines
  ["AVAILABLE DATA FIELDS:",
   fieldLines fields names,
   "",
   "CURRENT CHART STATE:",
   "- Mark type: " ++ Named.name state.mark.kind,
   "- Encodings: " ++ encodingLine state,
   "- Transforms: " ++ toString state.transforms.length,
   "- Title: " ++ titleLine state,
   "",
   "USER COMMAND:",
   "\"" ++ command ++ "\"",
   "",
   "Return ONLY a JSON array of operations.",
   ""]

def editRequest (command : String) (spec : Json) (fields : List DataField) : String := lines
  ["AVAILABLE DATA FIELDS:",
   fieldLines fields [],
   "",
   "CURRENT VEGA-LITE SPEC:",
   spec.indented,
   "",
   "USER MODIFICATION REQUEST:",
   "\"" ++ command ++ "\"",
   "",
   "Return ONLY the complete modified JSON spec.",
   ""]

end Prompt
end Chartwright
