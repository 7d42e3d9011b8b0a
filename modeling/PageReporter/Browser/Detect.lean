/-!
# Finding a browser

Where a browser is looked for when no one says which to use.

* `Browser.candidates` — the places and names, by platform;
* `Browser.detect` — the first of them that is there.
-/

namespace PageReporter.Browser

/-- The places and names that browsers go by on a platform. -/
def candidates (platform : String) : List String :=
  match platform with
  | "darwin" => [
      "/Applications/Google Chrome.app/Contents/MacOS/Google Chrome",
      "/Applications/Chromium.app/Contents/MacOS/Chromium",
      "/Applications/Google Chrome Canary.app/Contents/MacOS/Google Chrome Canary",
      "/Applications/Brave Browser.app/Contents/MacOS/Brave Browser",
      "/Applications/Microsoft Edge.app/Contents/MacOS/Microsoft Edge"]
  | "linux" => [
      "google-chrome",
      "google-chrome-stable",
      "chromium",
      "chromium-browser",
      "brave-browser",
      "microsoft-edge"]
  | _ => []

/-- Where a candidate is found: as a file in its own right, or, if it is a bare name, on the
search path. An empty place counts as not found. -/
def locate? (isFile : String → Bool) (onPath : String → Option String) (candidate : String) :
    Option String :=
  if isFile candidate then some candidate
  else if candidate.contains '/' then none
  else (onPath candidate).filter fun place => !place.isEmpty

/-- The first candidate that is found. -/
def detect (platform : String) (isFile : String → Bool) (onPath : String → Option String) :
    Option String :=
  (candidates platform).findSome? (locate? isFile onPath)

end PageReporter.Browser
