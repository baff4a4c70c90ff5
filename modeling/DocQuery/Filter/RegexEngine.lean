import DocQuery.Filter.Comparison

/-!
# An engine to run

A filter leaves patterns to an engine, and what is said about filters is said for every engine. This
one makes filters run: it compiles patterns with `Pattern.compile`. It is no instance, so it
evaluates the patterns only where it is asked to.
-/

namespace DocQuery.Filter

/-- The engine that refuses what is no regular expression, and whose tests fail on no text. -/
abbrev regexEngine : Engine where
  compile p :=
    match p.compile with
    | .error e => .error (.regex e)
    | .ok test => .ok fun text => .ok (test text)

end DocQuery.Filter
