import TraitDocs.Text.Search

/-!
# The template of the document

The document is a template in which two markers are replaced: one by the listing of the classes, the
other by their sections. The listing goes in first, over the whole template; the sections go in
second, over the text that results.
-/

set_option autoImplicit false

namespace TraitDocs.Readme

/-- The marker that the listing replaces. -/
def listingMarker : String := "#GENERATED_LISTING#"

/-- The marker that the sections replace. -/
def bodyMarker : String := "#GENERATED_BODY#"

/-- The template before the listing. -/
def templateHead : String :=
  String.join ["#### GeckoPackages\n", "\n", "# PHPUnit extensions\n", "\n",
    "Provides additional asserts to be used in [PHPUnit](https://phpunit.de/) tests.\n",
    "The asserts are provided using Traits so no changes are needed in the hierarchy of ",
    "test classes.\n", "\n", "The additional asserts are provided through the Traits:\n"]

/-- The template between the listing and the sections. -/
def templateMiddle : String :=
  String.join ["\n", "\n", "See Traits and asserts listing for more details.\n", "\n",
    "### Requirements\n", "\n", "PHP 7 / PHPUnit 6\n", "\n",
    "<sub>Use ^v2.0 if you are using PHPUnit 5.</sub>\n", "\n", "### Install\n", "\n",
    "The package can be installed using [Composer](https://getcomposer.org/).\n",
    "Add the package to your `composer.json`.\n", "\n", "```\n", "\"require-dev\": \x7b\n",
    "    \"gecko-packages/gecko-php-unit\" : \"^3.0\"\n", "\x7d\n", "```\n", "\n",
    "<sub>Please note we hint `-dev` here because typically you only need tests during ",
    "development.</sub>\n", "\n", "### Usage\n", "\n",
    "Example usage of `FileSystemAssertTrait`.\n", "\n", "```php\n",
    "class myTest extends \\PHPUnit_Framework_TestCase\n", "\x7b\n",
    "    use \\GeckoPackages\\PHPUnit\\Asserts\\FileSystemAssertTrait;\n", "\n",
    "    public function testFilePermissionsOfThisFile()\n", "    \x7b\n",
    "        $this->assertFileHasPermissions('lrwxrwxrwx', __FILE__);\n", "    \x7d\n", "\x7d\n",
    "\n", "```\n", "\n", "# Traits and asserts listing\n"]

/-- The template after the sections. -/
def templateFoot : String :=
  String.join ["\n", "### License\n", "\n",
    "The project is released under the MIT license, see the LICENSE file.\n", "\n",
    "### Contributions\n", "\n", "Contributions are welcome!\n", "\n", "### Semantic Versioning\n",
    "\n", "This project follows [Semantic Versioning](http://semver.org/).\n", "\n",
    "<sub>Kindly note:\n",
    "We do not keep a backwards compatible promise on code annotated with `@internal`, ",
    "the tests and tooling (such as document generation) of the project itself\n",
    "nor the content and/or format of exception/error messages.</sub>\n"]

/-- The template that is used unless another one is given. -/
def builtInTemplate : String :=
  templateHead ++ listingMarker ++ templateMiddle ++ bodyMarker ++ templateFoot

/-- The template with the listing and the sections in place of its markers. -/
def fill (listing body template : String) : String :=
  let listed := Text.replaceAll listingMarker.toList listing.toList template.toList
  String.ofList (Text.replaceAll bodyMarker.toList body.toList listed)

end TraitDocs.Readme
