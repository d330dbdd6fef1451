/-! # The template of a configuration file
-/

namespace UrlTemplate.Config

/-- The lines of the template, which explain every setting. -/
def templateLines : List String := [
  "# urlpat configuration",
  "#",
  "# Rules are tried in order; the first rule whose url_pattern (a regex)",
  "# matches the URL supplies the pattern. A rule without url_pattern matches",
  "# every URL. Files in parent directories and ~/.urlpat.toml are consulted",
  "# after this one.",
  "",
  "# Stop looking for .urlpat.toml in parent directories.",
  "# root = true",
  "",
  "# Skip ~/.urlpat.toml when this environment variable is truthy.",
  "# root-config-lookup-disable-env-var = \"CI\"",
  "",
  "# Keep only the search term on search pages.",
  "# [[rules]]",
  "# name = \"search\"",
  "# url_pattern = \"^https?://[^/]+/search\"",
  "# pattern = \"/search?[q]\"",
  "",
  "# Keep the first two path segments and drop tracking params elsewhere.",
  "# [[rules]]",
  "# name = \"default\"",
  "# pattern = \"/*/*/?[^utm_source,utm_medium,utm_campaign]\""]

/-- A configuration file without rules, to start from. -/
def template : String := String.join (templateLines.map (· ++ "\n"))

end UrlTemplate.Config
