import Docent.Settings.Basic

/-!
# The document

The layout of the document: an introduction, a table of contents, and a section for every class and
method, each a heading and its text.
-/

namespace Docent

/-- The introduction: what the project is and how it is installed. -/
def introduction (p : ProjectSettings) : String :=
  "## Introduction\n\nWelcome to the `" ++ p.name.display ++ "` documentation. " ++
    p.description.display ++ "\n\n## Installation\n\nTo install the `" ++ p.name.display ++
    "` package, follow these steps:\n\n1. **Install the package:**\n\n   Open your terminal, " ++
    "navigate to your project's root directory, and run the following command:\n\n   ```bash\n   " ++
    p.installCommand.display ++ "\n   ```"

def tableOfContents (p : ProjectSettings) : String :=
  "# " ++ p.name.display ++ " Documentation\n\n## Table of Contents\n\n" ++
    "- [Introduction](#introduction)\n- [Installation](#installation)\n- [Usage](#usage)\n" ++
    "- [API Reference](#api-reference)"

def classHeading (name : String) : String := "## Class `" ++ name ++ "`"

def methodHeading (name : String) : String := "### Method `" ++ name ++ "()`"

def renderSection (heading body : String) : String := heading ++ "\n\n" ++ body ++ "\n\n"

def documentHead (p : ProjectSettings) : String :=
  introduction p ++ "\n\n" ++ tableOfContents p ++ "\n\n"

def renderDocument (p : ProjectSettings) (sections : List String) : String :=
  documentHead p ++ String.join sections

end Docent
