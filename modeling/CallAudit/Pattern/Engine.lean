/-!
# Pattern engines

The language of patterns is not fixed here: which texts are patterns, and what they match, is for an engine
to say. The rest only relies on it that the same text is always read the same way.
-/
namespace CallAudit

/-- Reads patterns. -/
class PatternEngine where
  /-- does the pattern match somewhere in a text? None if the pattern is wrong -/
  compile? : String → Option (String → Bool)

end CallAudit
