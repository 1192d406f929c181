import FontPrep.Cli.Options

namespace FontPrep.Cli

def version : String := "fontprep 0.1.0"

def help : String :=
  "Write a makeotf kern feature and glyph order for a UFO\n\n" ++
  "Usage: fontprep [OPTIONS] <FONT>\n\n" ++
  "Arguments:\n" ++
  "  <FONT>  UFO to read\n\n" ++
  "Options:\n" ++
  "  -o, --output <OUTPUT>            File to write the kern feature to (defaults to stdout)\n" ++
  "      --header <HEADER>            Text placed, as comments, at the top of the feature\n" ++
  "      --glyph-order <GLYPH_ORDER>  Also write a makeotf glyph order file here\n" ++
  "      --name-map <NAME_MAP>        JSON object of design name to production name, overriding\n" ++
  "                                   the UFO's public.postscriptNames\n" ++
  "  -v, --verbose...                 Increase logging verbosity\n" ++
  "  -q, --quiet...                   Decrease logging verbosity\n" ++
  "  -h, --help                       Print help\n" ++
  "  -V, --version                    Print version"

def UsageError.message : UsageError → String
  | missingRequiredArgument => "error: a required argument is missing"
  | unknownArgument => "error: unexpected argument"
  | argumentConflict => "error: an argument cannot be used again or with another one"
  | invalidValue => "error: a value is missing or empty"
  | tooManyValues => "error: unexpected value for an option that takes none"
  | displayHelp => help
  | displayVersion => version

/-- Help and version were asked for, so they are no failure. -/
def UsageError.isAnswer : UsageError → Bool
  | displayHelp | displayVersion => true
  | _ => false

end FontPrep.Cli
