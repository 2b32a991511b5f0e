/-!
The text of the matcher that is handed out with the binding model.
-/
namespace HttpBinding.Transport

def matcherLines : List String :=
  ["// Everything in this file must compile without imports: the generator copies",
   "// `path_params` and what it references into generated servers.",
   "",
   "/// Error returned by [`path_params`] when a request path does not fit a template.",
   "#[derive(Debug, Clone, PartialEq, Eq)]",
   "pub enum PathParamsError \x7b",
   "    /// The path and the template split into a different number of segments.",
   "    SegmentCountMismatch \x7b expected: usize, found: usize \x7d,",
   "    /// A literal template segment differs from the path segment at `index`.",
   "    LiteralMismatch \x7b",
   "        index: usize,",
   "        expected: String,",
   "        found: String,",
   "    \x7d,",
   "\x7d",
   "",
   "impl std::fmt::Display for PathParamsError \x7b",
   "    fn fmt(&self, f: &mut std::fmt::Formatter<'_>) -> std::fmt::Result \x7b",
   "        match self \x7b",
   "            PathParamsError::SegmentCountMismatch \x7b expected, found \x7d => \x7b",
   "                write!(f, \"expected a path of \x7bexpected\x7d segments, got \x7bfound\x7d\")",
   "            \x7d",
   "            PathParamsError::LiteralMismatch \x7b",
   "                index,",
   "                expected,",
   "                found,",
   "            \x7d => write!(f, \"segment \x7bindex\x7d: expected '\x7bexpected\x7d', got '\x7bfound\x7d'\"),",
   "        \x7d",
   "    \x7d",
   "\x7d",
   "",
   "impl std::error::Error for PathParamsError \x7b\x7d",
   "",
   "/// Match `path` against `template`, returning each placeholder's value.",
   "///",
   "/// Both sides must split into the same number of `/`-delimited segments; a",
   "/// single trailing slash on either side is ignored. Placeholders consume one",
   "/// segment each, literal segments must match exactly.",
   "///",
   "/// The segment count is checked first and fails with",
   "/// [`PathParamsError::SegmentCountMismatch`]. Once the counts agree, a literal",
   "/// segment that differs from the path fails with",
   "/// [`PathParamsError::LiteralMismatch`] instead of binding the remaining",
   "/// placeholders.",
   "pub fn path_params(",
   "    path: &str,",
   "    template: &str,",
   ") -> Result<std::collections::HashMap<String, String>, PathParamsError> \x7b",
   "    let parts = split_segments(path);",
   "    let patterns = split_segments(template);",
   "    if parts.len() != patterns.len() \x7b",
   "        return Err(PathParamsError::SegmentCountMismatch \x7b",
   "            expected: patterns.len(),",
   "            found: parts.len(),",
   "        \x7d);",
   "    \x7d",
   "",
   "    let mut params = std::collections::HashMap::new();",
   "    for (index, (part, pattern)) in parts.iter().zip(patterns.iter()).enumerate() \x7b",
   "        match placeholder_name(pattern) \x7b",
   "            Some(name) => \x7b",
   "                params.insert(name.to_string(), part.to_string());",
   "            \x7d",
   "            None if part != pattern => \x7b",
   "                return Err(PathParamsError::LiteralMismatch \x7b",
   "                    index,",
   "                    expected: pattern.to_string(),",
   "                    found: part.to_string(),",
   "                \x7d);",
   "            \x7d",
   "            None => \x7b\x7d",
   "        \x7d",
   "    \x7d",
   "    Ok(params)",
   "\x7d",
   "",
   "/// Split on `/`, dropping one trailing empty segment.",
   "fn split_segments(path: &str) -> Vec<&str> \x7b",
   "    let mut segments: Vec<&str> = path.split('/').collect();",
   "    if segments.len() > 1 && segments.last() == Some(&\"\") \x7b",
   "        segments.pop();",
   "    \x7d",
   "    segments",
   "\x7d",
   "",
   "/// Name bound by a `\x7bname\x7d` segment, or `None` for a literal segment.",
   "pub fn placeholder_name(segment: &str) -> Option<&str> \x7b",
   "    if segment.len() > 2 && segment.starts_with('\x7b') && segment.ends_with('\x7d') \x7b",
   "        Some(&segment[1..segment.len() - 1])",
   "    \x7d else \x7b",
   "        None",
   "    \x7d",
   "\x7d",
   "",
   "/// Whether `segment` is a `\x7bname\x7d` placeholder rather than a literal.",
   "pub fn is_placeholder(segment: &str) -> bool \x7b",
   "    placeholder_name(segment).is_some()",
   "\x7d",
   "",
   "/// Placeholder names of `template`, in order. Repeated names are kept.",
   "pub fn placeholders(template: &str) -> Vec<&str> \x7b",
   "    template.split('/').filter_map(placeholder_name).collect()",
   "\x7d",
   "",
   "/// Longest placeholder-free prefix of `template`.",
   "pub fn base_path(template: &str) -> &str \x7b",
   "    match template.find('\x7b') \x7b",
   "        Some(idx) => &template[..idx],",
   "        None => template,",
   "    \x7d",
   "\x7d"]

def matcherText : String := String.join (matcherLines.map (· ++ "\n"))

end HttpBinding.Transport
