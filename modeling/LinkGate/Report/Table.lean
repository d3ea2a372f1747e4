import LinkGate.Report.Basic

/-!
# Reports as tables

A report for people: a table of all web addresses, the links that do not work, and a summary. Widths
count characters.
-/

namespace LinkGate

namespace Table

def padded (width : Nat) (s : String) : String :=
  String.ofList (s.toList ++ List.replicate (width - s.length) ' ')

def row (url status attempts : String) : String :=
  padded 70 url ++ " " ++ padded 20 status ++ " " ++ padded 8 attempts

def urlLimit : Nat := 67

/-- An address, cut off with dots if it is too long. -/
def urlCell (url : String) : String :=
  if urlLimit < url.length then String.ofList (url.toList.take urlLimit) ++ "..." else url

def statusCell : Status → String
  | .code value =>
    if value = Status.success then "✅ 200"
    else if value = Status.rateLimited then "⏱\ufe0f  429 RATE LIMITED"
    else "❌ " ++ toString value.toNat
  | .failed error => "⚠\ufe0f  " ++ error.kind.label

def outcomeRow (o : Outcome) : String :=
  row (urlCell o.url) (statusCell o.status) (toString o.attempts)

end Table

def Scope.Mode.text : Scope.Mode → String
  | full => "all documents"
  | changed targetRef => "documents changed relative to " ++ targetRef

namespace Report

open Table

def outcomeLines (r : Report) : List String :=
  if r.outcomes.isEmpty then []
  else ["", row "URL" "STATUS" "ATTEMPTS", String.ofList (List.replicate 100 '=')] ++
    r.outcomes.map outcomeRow

def failureLines (r : Report) : List String :=
  if r.failures.isEmpty then []
  else ["", "❌ Broken links:"] ++ r.failures.map fun f => "   " ++ f.text

def summaryLines (r : Report) : List String :=
  ["", "📊 Summary:",
    "   🌿 Branch: " ++ r.branch,
    "   🔎 Scope: " ++ r.mode.text,
    "   📄 Documents checked: " ++ toString r.documentsChecked.length,
    "   ⏭\ufe0f  Documents skipped: " ++ toString r.documentsSkipped.length,
    "   📁 Local links: " ++ toString r.localLinksChecked,
    "   🌐 Unique URLs: " ++ toString r.outcomes.length ++
      " (" ++ toString r.remoteOkCount ++ " OK)",
    "   ❌ Broken: " ++ toString r.failures.length]

def tableText (r : Report) : String :=
  String.join ((r.outcomeLines ++ r.failureLines ++ r.summaryLines).map (· ++ "\n"))

end Report

end LinkGate
