import LinkGate.CommandLine.Parser

/-!
# Help

What is shown to those who ask what the program does. The long form leaves a line between switches and
puts what is assumed without them on lines of its own.
-/

namespace LinkGate.CommandLine

def versionText : String := "doclinks 0.1.0\n"

def Switch.explanation (isLong : Bool) : Switch → String
  | root => "Repository root (manifest paths are relative to it)"
  | all => "Check every document, even on a feature branch"
  | manifest => "JSON file listing the documents to check instead of the built-in list"
  | targetRef => "Branch to diff against [default: $GITHUB_BASE_REF, then main]"
  | targetRepo =>
    "Repository to fetch the target branch from, as owner/repo or URL [default: $GITHUB_REPOSITORY, then the upstream remote]"
  | backoffSecs => "Seconds to wait after a 429 response before retrying"
  | maxAttempts => "Requests per URL, first one included, while rate limited"
  | timeoutSecs => "Per-request timeout in seconds"
  | maxConcurrency => "Cap on concurrent requests (default: one per unique URL)"
  | json => "Output the report in JSON format instead of a table"
  | verbose => "Enable debug logging"
  | logJson => "Emit JSON-formatted log lines"
  | help => if isLong then "Print help (see a summary with '-h')" else "Print help (see more with '--help')"
  | version => "Print version"

/-- What is assumed without a switch. -/
def Switch.assumed? (s : Switch) : Option String :=
  let config := Options.standard.config
  match s with
  | root => some config.root.text
  | backoffSecs => some (toString (config.retry.backoff / 1000))
  | maxAttempts => some (toString config.retry.maxAttempts)
  | timeoutSecs => some (toString (config.timeout / 1000))
  | _ => none

def Switch.forms (s : Switch) : String :=
  (match s.letter? with
    | some c => String.ofList ['-', c, ',', ' ']
    | none => "    ") ++ s.text

def Switch.lines (isLong : Bool) (s : Switch) : List String :=
  let margin := "          "
  let assumed := s.assumed?.map fun value => "[default: " ++ value ++ "]"
  ("  " ++ s.forms) ::
    if isLong then
      (margin ++ s.explanation isLong) :: (assumed.map fun a => [margin, margin ++ a]).getD []
    else [margin ++ s.explanation isLong ++ (assumed.map (" " ++ ·)).getD ""]

def purpose (isLong : Bool) : String :=
  if isLong then
    "doclinks checks every link in the documentation manifest: relative links against the filesystem, URLs and heading anchors over the network. On feature branches only documents changed relative to the target branch are checked; on main and release branches, all of them."
  else "Check the links in a repository's documentation files"

def helpText (isLong : Bool) : String :=
  let switches := Switch.every.map fun s => "\n".intercalate (s.lines isLong)
  purpose isLong ++ "\n\n" ++ Usage.general.text ++ "\n\nOptions:\n" ++
    (if isLong then "\n\n" else "\n").intercalate switches ++ "\n"

end LinkGate.CommandLine
