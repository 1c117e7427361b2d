/-!
An example configuration, for operators to start from.
-/

namespace Muster.Config

def exampleLines : List String :=
  ["[timeouts]",
    "request_timeout_ms = 30000",
    "",
    "[tokens]",
    "refresh_margin_ms = 30000",
    "default_ttl_ms = 300000",
    "",
    "[testdata]",
    "# producer_address = \"tcp://master:5557\"",
    "",
    "[log]",
    "sink = \"stderr\"",
    "",
    "[[scenarios]]",
    "name = \"do some posts\"",
    "identifier = \"001\"",
    "",
    "[scenarios.testdata]",
    "order = \"sequential\"",
    "cyclic = false",
    "sources = [",
    "  \x7b type = \"inline\", records = [\x7b username = \"alice\" \x7d, "
      ++ "\x7b username = \"bob\" \x7d] \x7d,",
    "  \x7b type = \"json_lines_file\", path = \"users.jsonl\" \x7d,",
    "]",
    "",
    "[scenarios.validation]",
    "fail_ratio = 0.1",
    "avg_response_time_ms = 500.0",
    "response_time_percentile = \x7b percentile = 0.99, threshold_ms = 2000 \x7d",
    "",
    "[[scenarios]]",
    "name = \"browse catalog\"",
    "",
    "[scenarios.testdata]",
    "order = \"random\"",
    "cyclic = true",
    "sources = [\x7b type = \"json_file\", path = \"products.json\" \x7d]"]

def exampleText : String := String.join (exampleLines.map fun line => line ++ "\n")

end Muster.Config
