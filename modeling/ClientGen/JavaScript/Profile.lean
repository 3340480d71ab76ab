import ClientGen.JavaScript.Helper
import ClientGen.JavaScript.Template
import ClientGen.Profile

/-!
# The profile of JavaScript clients

A client for JavaScript on a server, which sends its requests with the global function `fetch`.
-/

namespace ClientGen.JavaScript

/-- The profile of JavaScript clients. -/
def profile : Profile where
  name := "js-client"
  templates := .ofList [
    ("index.js", .source indexTemplate),
    ("package.json", .source packageTemplate),
    ("README.md", .source readmeTemplate)]
  fragments := .ofList [("header", headerTemplate), ("method", methodTemplate)]
  helpers
  format := formatChoices
  options := .ofList [
    ("package_version", .text "0.0.0"), ("license", .text "UNLICENSED"), ("auth", .bool true)]
  files := none

end ClientGen.JavaScript
