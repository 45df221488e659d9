import ForkCensus.Url.Basic

/-
# References

An answer may name an address by how to get there from the address that
was asked: another host, another path, or just another last segment.
`Url.resolve?` reads such a reference as it is meant at a `base` of the
web.
-/

namespace ForkCensus.Url

/-- The segments in which the last one may be replaced. -/
def parentSegments (u : Url) : List String :=
  u.segments.dropLast

/-- Reads what stands after the scheme.  Two slashes begin a host, one begins a path; a path without
a slash takes the place of the last segment; and where there is no path at all, the path stays, and
so does the query unless there is another. -/
def relative? (base : Url) (cs : List Char) : Option Url :=
  let k := Kind.of base.scheme
  match (cs.takeWhile k.isSlash).length with
  | 0 =>
    match cutTail k cs with
    | ([], tail) =>
      some { base with query := tail.query.or base.query, fragment := tail.fragment }
    | (path, tail) =>
      some { base with
        path := .segments (segmentsBelow base.parentSegments k.isSlash path)
        query := tail.query
        fragment := tail.fragment }
  | 1 =>
    let (path, tail) := cutTail k cs
    some { base with
      path := .segments (segmentsOf k.isSlash (path.drop 1))
      query := tail.query
      fragment := tail.fragment }
  | _ => readHosted? k base.scheme (cs.dropWhile k.isSlash)

/-- The address that a text means at a `base` of the web; a scheme that is the same as there may
stand before a relative reference. -/
def resolve? (base : Url) (text : String) : Option Url :=
  match cutScheme? (clean text.toList) with
  | none => base.relative? (clean text.toList)
  | some (scheme, rest) => if scheme = base.scheme then base.relative? rest else ofText? text

end ForkCensus.Url
