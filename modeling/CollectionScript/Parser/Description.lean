import CollectionScript.Parser
import CollectionScript.Text.Quoted

/-! A one-line description of a parser, for people who debug it. -/
namespace CollectionScript
namespace Parser

def describeLimits (limits : Limits) : Text :=
  "ParseLimits \x7b max_line_length: " ++ Text.decimal limits.lineBytes
    ++ ", max_lines: " ++ Text.decimal limits.commandLines
    ++ ", max_tokens_per_line: " ++ Text.decimal limits.lineArguments ++ " \x7d"

def describe (parser : Parser) : Text :=
  "ScriptParser \x7b commands: ["
    ++ List.intercalate ", ".toList (parser.vocabulary.keywords.map Text.quoted)
    ++ "], limits: " ++ describeLimits parser.limits ++ ", .. \x7d"

end Parser
end CollectionScript
