import SasOutline.Decimal
import SasOutline.Scan

/-!
# Coverage of a scan

The coverage is the share of the characters that a scan did not skip.  An empty
text counts as fully covered.  Reports show it as a percentage with two decimal
places.
-/

namespace SasOutline

namespace ScanCounts

def coverage (counts : ScanCounts) : Decimal :=
  if counts.total = 0 then .one
  else (Decimal.quotient counts.skipped counts.total).complement

def coverageText (counts : ScanCounts) : String :=
  counts.coverage.trimmed.text

def percentage (counts : ScanCounts) : Decimal :=
  counts.coverage.timesHundred.round 2

def rate (counts : ScanCounts) : String :=
  counts.percentage.text ++ "%"

end ScanCounts

end SasOutline
